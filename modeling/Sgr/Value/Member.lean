import Sgr.Value.Access

/-!
# Members that can be set

The parts of a deferred text and of a brush can be set, and so can members that nobody reads. What
cannot be set says why: a colour is frozen, constant text is immutable, the parts of a number and
the operations of a type are read-only, and a name that a type does not know is refused.

## Main definitions

* `MemberError` — why a member cannot be set.
* `operationNames` — the names of the operations of a type.
* `Value.refusal?` — why a member of a value cannot be set.
-/

namespace Sgr

/-- Why a member of a value cannot be set. -/
inductive MemberError where
  | immutable
  | frozen (name : String)
  | unknown (typeName name : String)
  | readOnly (typeName name : String)
  | notWritable (typeName name : String)
  | readOnlyPart
  | noSetter (typeName name : String)
  | enumeration (name : String)
  deriving DecidableEq, Repr, Inhabited

namespace MemberError

/-- The text of an error. -/
def message : MemberError → String
  | immutable => "ConstText is immutable"
  | frozen name => "cannot assign to field '" ++ name ++ "'"
  | unknown typeName name => "'" ++ typeName ++ "' object has no attribute '" ++ name ++ "'"
  | readOnly typeName name =>
    "'" ++ typeName ++ "' object attribute '" ++ name ++ "' is read-only"
  | notWritable typeName name =>
    "attribute '" ++ name ++ "' of '" ++ typeName ++ "' objects is not writable"
  | readOnlyPart => "readonly attribute"
  | noSetter typeName name =>
    "property '" ++ name ++ "' of '" ++ typeName ++ "' object has no setter"
  | enumeration name => "<enum 'Enum'> cannot set attribute '" ++ name ++ "'"

/-- The class of an error. -/
def errorClass : MemberError → ErrorClass
  | frozen _ => .frozen
  | _ => .noAttribute

end MemberError

/-! ## Names that types know -/

/-- Operations of texts and of bytes. -/
def sharedTextOperations : List String :=
  ["capitalize", "center", "count", "endswith", "expandtabs", "find", "index", "isalnum", "isalpha",
   "isascii", "isdigit", "islower", "isspace", "istitle", "isupper", "join", "ljust", "lower",
   "lstrip", "maketrans", "partition", "removeprefix", "removesuffix", "replace", "rfind", "rindex",
   "rjust", "rpartition", "rsplit", "rstrip", "split", "splitlines", "startswith", "strip",
   "swapcase", "title", "translate", "upper", "zfill"]

/-- Operations of whole numbers. -/
def intOperations : List String :=
  ["as_integer_ratio", "bit_count", "bit_length", "conjugate", "from_bytes", "to_bytes"]

/-- Operations of days, and what is the same for all of them. -/
def dayOperations : List String :=
  ["ctime", "fromisocalendar", "fromisoformat", "fromordinal", "fromtimestamp", "isocalendar",
   "isoformat", "isoweekday", "max", "min", "replace", "resolution", "strftime", "timetuple",
   "today", "toordinal", "weekday"]

/-- Operations of moments that are no days. -/
def timeOperations : List String :=
  ["astimezone", "combine", "date", "dst", "now", "strptime", "time", "timestamp", "timetz",
   "tzname", "utcfromtimestamp", "utcnow", "utcoffset", "utctimetuple"]

/-- Operations of paths. -/
def pathOperations : List String :=
  ["absolute", "as_posix", "as_uri", "chmod", "cwd", "exists", "expanduser", "glob", "group",
   "hardlink_to", "home", "is_absolute", "is_block_device", "is_char_device", "is_dir", "is_fifo",
   "is_file", "is_mount", "is_relative_to", "is_reserved", "is_socket", "is_symlink", "iterdir",
   "joinpath", "lchmod", "link_to", "lstat", "match", "mkdir", "open", "owner", "read_bytes",
   "read_text", "readlink", "relative_to", "rename", "replace", "resolve", "rglob", "rmdir",
   "samefile", "stat", "symlink_to", "touch", "unlink", "with_name", "with_stem", "with_suffix",
   "write_bytes", "write_text"]

/-- The names of the operations of a type. -/
def operationNames : String → List String
  | "int" | "bool" => intOperations
  | "float" => ["as_integer_ratio", "conjugate", "fromhex", "hex", "is_integer"]
  | "complex" => ["conjugate"]
  | "str" =>
    sharedTextOperations ++ ["casefold", "encode", "format", "format_map", "isdecimal",
      "isidentifier", "isnumeric", "isprintable"]
  | "bytes" => sharedTextOperations ++ ["decode", "fromhex", "hex"]
  | "list" =>
    ["append", "clear", "copy", "count", "extend", "index", "insert", "pop", "remove", "reverse",
     "sort"]
  | "tuple" => ["count", "index"]
  | "dict" =>
    ["clear", "copy", "fromkeys", "get", "items", "keys", "pop", "popitem", "setdefault", "update",
     "values"]
  | "frozenset" =>
    ["copy", "difference", "intersection", "isdisjoint", "issubset", "issuperset",
     "symmetric_difference", "union"]
  | "set" =>
    ["add", "clear", "copy", "difference", "difference_update", "discard", "intersection",
     "intersection_update", "isdisjoint", "issubset", "issuperset", "pop", "remove",
     "symmetric_difference", "symmetric_difference_update", "union", "update"]
  | "datetime.date" => dayOperations
  | "datetime.datetime" => dayOperations ++ timeOperations
  | "PosixPath" => pathOperations
  | "SgrFormat" => ["render"]
  | _ => []

/-- The parts of a whole number. -/
def intParts : List String := ["real", "imag", "numerator", "denominator"]

/-- The parts of a day. -/
def dayParts : List String := ["year", "month", "day"]

/-- The parts of a time. -/
def timeParts : List String := ["hour", "minute", "second", "microsecond", "tzinfo", "fold"]

/-- The parts of a path. -/
def pathParts : List String :=
  ["anchor", "drive", "name", "parent", "parents", "parts", "root", "stem", "suffix", "suffixes"]

namespace Value

/-- Why a member of an enumeration cannot be given a member. Every name that has no meaning can be
given to it. -/
def enumerationRefusal? (v : Value) (name : String) : Option MemberError :=
  if name = "name" ∨ name = "value" then some (.enumeration name)
  else match v with
    | level _ => if name ∈ intParts then some (.notWritable "int" name) else none
    | output _ =>
      if name = "needs_template" then some (.noSetter "OutputMode" name) else none
    | _ => none

/-- Why a member of a value of a basic type cannot be set: it is a part, an operation, or not known
at all. -/
def basicRefusal (v : Value) (name : String) : MemberError :=
  match v with
  | int _ | bool _ =>
    if name ∈ intParts then .notWritable "int" name else rest
  | float _ => if name ∈ ["real", "imag"] then .notWritable "float" name else rest
  | complex .. => if name ∈ ["real", "imag"] then .readOnlyPart else rest
  | path _ => if name ∈ pathParts then .noSetter "PosixPath" name else rest
  | moment m =>
    if name ∈ dayParts then .notWritable "datetime.date" name
    else if m.clock.isSome && name ∈ timeParts then .notWritable "datetime.datetime" name
    else rest
  | _ => rest
where
  /-- The refusal of an operation or an unknown name. -/
  rest : MemberError :=
    if name ∈ operationNames v.typeName then .readOnly v.typeName name
    else .unknown v.typeName name

/-- Why a member of a value cannot be set, unless it can. -/
def refusal? (v : Value) (name : String) : Option MemberError :=
  match v with
  | constText _ => some .immutable
  | color _ | shade .. | resolution _ | settings _ => some (.frozen name)
  | sigil _ | style _ | group _ | level _ | output _ | revert _ => v.enumerationRefusal? name
  | brush _ | makeshift .. =>
    if name = "groups" then some (.noSetter "StyleMacro" name) else none
  | family _ => if name = "group" then some (.noSetter "ColorFamily" name) else none
  | deferred .. =>
    if name ∈ ["template", "args", "kwargs"] then none else some (v.basicRefusal name)
  | v => some (v.basicRefusal name)

end Value

end Sgr
