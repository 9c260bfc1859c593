import ClassLoom.Failure
import ClassLoom.Yaml.Cursor

namespace ClassLoom
namespace Yaml

/-!
# What is wrong with a document

Most refusals are complaints about the form of the text or about the use of tags and anchors.  Some
values that have the right form stand for nothing, such as the thirtieth of February; those are
faults, and no complaints about the document.
-/

/-- What a text cannot be read for. -/
inductive Complaint where
  | unprintable (c : Char)
  | noToken (c : Char)
  | keyWithoutColon
  | itemNotAllowed
  | keyNotAllowed
  | valueNotAllowed
  | unmatchedBracket
  | directiveName
  | directiveValue
  | directiveEnd
  | anchorName
  | tagHandle
  | tagAddress
  | tagEnd
  | blockHeader
  | unclosedQuote
  | separatorInQuote
  | unknownEscape
  | escapeDigits
  | secondVersion
  | otherVersion
  | secondHandle (handle : String)
  | unknownHandle (handle : String)
  | expected (what : String)
  | unknownAnchor (name : String)
  | secondAnchor (name : String)
  | circular (name : String)
  | secondDocument
  | unknownTag (tag : String)
  | wrongNode (what : String)
  | keyNotComparable
  | notAscii
  | badPadding
  deriving Repr, DecidableEq, Inhabited

namespace Complaint

def message : Complaint → String
  | .unprintable _ => "special characters are not allowed"
  | .noToken c => "found character " ++ Text.quoted c.toString ++ " that cannot start any token"
  | .keyWithoutColon => "could not find expected " ++ Text.quoted ":"
  | .itemNotAllowed => "sequence entries are not allowed here"
  | .keyNotAllowed => "mapping keys are not allowed here"
  | .valueNotAllowed => "mapping values are not allowed here"
  | .unmatchedBracket => "found a closing bracket without its opening one"
  | .directiveName => "expected the name of a directive"
  | .directiveValue => "expected the value of a directive"
  | .directiveEnd => "expected a comment or a line break after a directive"
  | .anchorName => "expected a name of letters, digits, hyphens and underscores"
  | .tagHandle => "expected a tag handle"
  | .tagAddress => "expected a tag"
  | .tagEnd => "expected a space after a tag"
  | .blockHeader => "expected chomping or indentation indicators, a comment or a line break"
  | .unclosedQuote => "found unexpected end of stream in a quoted scalar"
  | .separatorInQuote => "found unexpected document separator in a quoted scalar"
  | .unknownEscape => "found unknown escape character"
  | .escapeDigits => "expected escape sequence of hexadecimal digits"
  | .secondVersion => "found duplicate version directive"
  | .otherVersion => "found incompatible document (version 1.* is required)"
  | .secondHandle handle => "duplicate tag handle " ++ Text.quoted handle
  | .unknownHandle handle => "found undefined tag handle " ++ Text.quoted handle
  | .expected what => "expected " ++ what
  | .unknownAnchor name => "found undefined alias " ++ Text.quoted name
  | .secondAnchor name => "found duplicate anchor " ++ Text.quoted name
  | .circular name => "found alias " ++ Text.quoted name ++ " inside of its own node"
  | .secondDocument => "expected a single document in the stream"
  | .unknownTag tag => "could not determine a constructor for the tag " ++ Text.quoted tag
  | .wrongNode what => "expected " ++ what
  | .keyNotComparable => "found a key that cannot be compared"
  | .notAscii => "failed to convert base64 data into ascii"
  | .badPadding => "failed to decode base64 data"

end Complaint

/-- Why a text is not read: a complaint, with the line and column if there are any, or a fault. -/
inductive Refusal where
  | malformed (place : Option (Nat × Nat)) (complaint : Complaint)
  | fault (fault : Fault)
  deriving Inhabited

namespace Refusal

/-- The text of a refusal; lines and columns are counted from one. -/
def message : Refusal → String
  | .malformed none complaint => complaint.message
  | .malformed (some (line, column)) complaint =>
    complaint.message ++ " in line " ++ toString (line + 1) ++ ", column " ++ toString (column + 1)
  | .fault cause => cause.message

end Refusal

/-- Refuse a text at a place. -/
def Cursor.refuse {α : Type} (cursor : Cursor) (complaint : Complaint) : Except Refusal α :=
  .error (.malformed (some (cursor.line, cursor.column)) complaint)

end Yaml
end ClassLoom
