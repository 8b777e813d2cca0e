import Sgr.ErrorClass
import Sgr.Moment
import Sgr.Number.Reading

/-!
# Faults of documents

A text may be no document, and a document may have no value. A scalar may also be spelled so that
the value of its tag cannot be made; such a fault has a class of its own.

## Main definitions

* `Yaml.Fault` — why a text is no document, or why a document has no value.
* `Yaml.ScalarFault` — why a scalar does not have a value of its tag.
* `Yaml.LoadFault` — both.
-/

namespace Sgr.Yaml

/-- Why a text is no document, or why a document has no value. -/
inductive Fault where
  | unprintable (c : Char)
  | unclosedQuote
  | unclosedFlow
  | unknownEscape
  | markerInside
  | noToken (c : Char)
  | keyNotAllowed
  | entryNotAllowed
  | missingColon
  | badIndentation
  | noContent
  | secondDocument
  | noAnchorName
  | unknownAlias (name : String)
  | repeatedAnchor (name : String)
  | badTag
  | unknownHandle (name : String)
  | badDirective
  | noDocumentStart
  | badBlockHeader
  | tooDeep
  | noConstructor (tag : String)
  | unhashableKey
  | badMerge
  | notScalar
  | notSequence
  | notMapping
  | notPair
  | badBytes
  deriving DecidableEq, Repr, Inhabited

/-- The text of a fault. -/
def Fault.message : Fault → String
  | unprintable c => "unacceptable character " ++ Text.quote c.toString
  | unclosedQuote => "found unexpected end of stream while scanning a quoted scalar"
  | unclosedFlow => "expected ',' or the closing bracket while parsing a flow collection"
  | unknownEscape => "found unknown escape character while scanning a double-quoted scalar"
  | markerInside => "found unexpected document separator"
  | noToken c => "found character " ++ Text.quote c.toString ++ " that cannot start any token"
  | keyNotAllowed => "mapping values are not allowed here"
  | entryNotAllowed => "block sequence entries are not allowed here"
  | missingColon => "could not find expected ':'"
  | badIndentation => "expected <block end>"
  | noContent => "expected the node content"
  | secondDocument => "expected a single document in the stream"
  | noAnchorName => "expected alphabetic or numeric character while scanning an anchor"
  | unknownAlias name => "found undefined alias " ++ Text.quote name
  | repeatedAnchor name => "found duplicate anchor " ++ Text.quote name
  | badTag => "expected a tag"
  | unknownHandle name => "found undefined tag handle " ++ Text.quote name
  | badDirective => "expected a directive on a line of its own"
  | noDocumentStart => "expected '<document start>'"
  | badBlockHeader => "expected a comment or a line break while scanning a block scalar"
  | tooDeep => "nested too deep"
  | noConstructor tag => "could not determine a constructor for the tag " ++ Text.quote tag
  | unhashableKey => "found unhashable key"
  | badMerge => "expected a mapping or list of mappings for merging"
  | notScalar => "expected a scalar node"
  | notSequence => "expected a sequence node"
  | notMapping => "expected a mapping node"
  | notPair => "expected a mapping of length 1"
  | badBytes => "failed to decode base64 data"

/-- Why a moment does not exist. An offset is given in minutes. -/
inductive MomentFault where
  | year (n : Nat)
  | month
  | day
  | hour
  | minute
  | second
  | offset (minutes : Int)
  deriving DecidableEq, Repr, Inhabited

/-- The text of a fault. -/
def MomentFault.message : MomentFault → String
  | year n => "year " ++ Number.decimal n ++ " is out of range"
  | month => "month must be in 1..12"
  | day => "day is out of range for month"
  | hour => "hour must be in 0..23"
  | minute => "minute must be in 0..59"
  | second => "second must be in 0..59"
  | offset minutes =>
    "offset must be a timedelta strictly between -timedelta(hours=24) and timedelta(hours=24), not "
      ++ spanText minutes ++ "."

/-- Why a scalar does not have a value of its tag. -/
inductive ScalarFault where
  | whole (base : Nat) (text : String) (fault : Number.IntFault)
  | fraction (text : String)
  | empty
  | word (text : String)
  | notMoment
  | moment (f : MomentFault)
  deriving DecidableEq, Repr, Inhabited

namespace ScalarFault

/-- The text of a fault. -/
def message : ScalarFault → String
  | whole base text fault => fault.message base text
  | fraction text => "could not convert string to float: " ++ Text.quote text
  | empty => "string index out of range"
  | word text => text
  | notMoment => "'NoneType' object has no attribute 'groupdict'"
  | moment f => f.message

/-- The class of a fault. -/
def errorClass : ScalarFault → ErrorClass
  | empty => .outOfRange
  | word _ => .missingKey
  | notMoment => .noAttribute
  | _ => .wrongValue

end ScalarFault

/-- Why a text has no value. -/
inductive LoadFault where
  | markup (f : Fault)
  | scalar (f : ScalarFault)
  deriving DecidableEq, Repr, Inhabited

end Sgr.Yaml
