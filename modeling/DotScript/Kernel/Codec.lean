import DotScript.Text.Classes

/-!
# Requests and the codec

The kernel reads a request from a line and writes a response as a line; both are objects with named
members.  How objects become text and are read again is the codec's affair.  `Codec.IsFaithful` says
what the protocol relies on.
-/

namespace DotScript
namespace Kernel

/-- A request. -/
structure Request where
  /-- What is to be done. -/
  action : String
  /-- The name of the cell, which the answer repeats. -/
  cellId : String
  /-- The code of the cell, or the start of the names to complete. -/
  code : String
deriving DecidableEq, Repr

/-- The value of a member. -/
inductive Datum
  | text (text : String)
  | texts (texts : List String)
  | count (count : Nat)
deriving DecidableEq, Repr

/-- The members of an object, in order. -/
abbrev Members := List (String × Datum)

/-- A request as it is sent: the cell and the code may be left out. -/
structure Message where
  /-- What is to be done. -/
  action : String
  /-- The name of the cell. -/
  cellId? : Option String
  /-- The code. -/
  code? : Option String
deriving DecidableEq, Repr

namespace Message

/-- The members of a message. -/
def members (message : Message) : Members :=
  ("action", .text message.action) ::
    (message.cellId?.toList.map fun cellId => ("cell_id", .text cellId)) ++
    message.code?.toList.map fun code => ("code", .text code)

/-- The request that a message makes: what is left out is empty. -/
def request (message : Message) : Request :=
  { action := message.action, cellId := message.cellId?.getD "", code := message.code?.getD "" }

end Message

/-- A way to read requests from lines and to write objects as lines. -/
structure Codec where
  /-- The request that a line makes, or why it makes none. -/
  read : String → Except String Request
  /-- The line of an object. -/
  write : Members → String

/-- Whether a line has nothing but white space. -/
def isBlankLine (line : String) : Bool :=
  line.toList.all Text.isBlank

/-- Whether a character is a control character, as line feeds and carriage returns are. -/
def isControl (c : Char) : Bool :=
  c.toNat < 0x20

/-- What the protocol relies on.  `decode` is how the other side reads the objects that the kernel
writes. -/
structure Codec.IsFaithful (codec : Codec) (decode : String → Option Members) : Prop where
  /-- The decoder accepts every message. -/
  accepts : ∀ message : Message, codec.read (codec.write message.members) = .ok message.request
  /-- A blank line makes no request. -/
  refuses : ∀ line request, codec.read line = .ok request → isBlankLine line = false
  /-- Control characters are escaped. -/
  escapes : ∀ members, ∀ c ∈ (codec.write members).toList, isControl c = false
  /-- The other side reads what was written; the names of the members have to differ. -/
  decodes : ∀ members : Members, (members.map (·.1)).Nodup →
    decode (codec.write members) = some members

end Kernel
end DotScript
