import Workbench.Transfer.Instruction
/-!
# Instructions as bytes

A frame is the digest of the sender's element table, the number of
instructions and the instructions. Numbers take seven bits per byte, low
bits first, with the high bit set on all bytes but the last; signed numbers
are folded to unsigned ones first; texts and lists are preceded by their
length; alternatives are preceded by their number. A reader takes what it
needs and leaves the rest.
-/

namespace Workbench

namespace Transfer

namespace Wire

/-! ## Writing -/

/-- A number in groups of seven bits, low groups first. -/
def putNat (n : Nat) : List UInt8 :=
  if n < 128 then [UInt8.ofNat n] else UInt8.ofNat (n % 128 + 128) :: putNat (n / 128)
termination_by n

/-- A signed number as an unsigned one, small magnitudes first. -/
def zigzag : Int → Nat
  | .ofNat n => 2 * n
  | .negSucc n => 2 * n + 1

/-- A truth value. -/
def putBool (b : Bool) : List UInt8 := [if b then 1 else 0]

/-- A text and its length. -/
def putText (s : String) : List UInt8 :=
  let bytes := s.toUTF8.data.toList
  putNat bytes.length ++ bytes

/-- A list and its length. -/
def putList {α : Type} (put : α → List UInt8) (items : List α) : List UInt8 :=
  putNat items.length ++ items.flatMap put

/-- A value that may be missing. -/
def putOption {α : Type} (put : α → List UInt8) : Option α → List UInt8
  | none => [0]
  | some a => 1 :: put a

/-- A position. -/
def putPosition (p : Position) : List UInt8 := putNat p.line ++ putNat p.character

/-- A range. -/
def putRange (r : Range) : List UInt8 := putPosition r.start ++ putPosition r.stop

/-- A scalar. -/
def putScalar : Scalar → List UInt8
  | .bool b => putNat 0 ++ putBool b
  | .int i => putNat 1 ++ putNat (zigzag i)
  | .str s => putNat 2 ++ putText s

/-- The node an instruction speaks of. -/
def putTarget : Target → List UInt8
  | .cst id => putNat 0 ++ putNat id.index
  | .ast id => putNat 1 ++ putNat id.index

/-- A reference. -/
def putReference (r : SentReference) : List UInt8 :=
  putText r.refText ++ putOption (fun id => putNat id.index) r.refNode

/-- An error. -/
def putError (e : SyntaxError) : List UInt8 :=
  putText e.message ++ putNat e.offset ++ putNat e.length ++ putRange e.range

/-- An instruction. -/
def putInstruction : Instruction → List UInt8
  | .allocate cst ast => putNat 0 ++ putNat cst ++ putNat ast
  | .property target property value =>
    putNat 1 ++ putTarget target ++ putText property ++ putScalar value
  | .propertyArray node property values =>
    putNat 2 ++ putNat node.index ++ putText property ++ putList putScalar values
  | .reference node property ref =>
    putNat 3 ++ putNat node.index ++ putText property ++ putReference ref
  | .referenceArray node property refs =>
    putNat 4 ++ putNat node.index ++ putText property ++ putList putReference refs
  | .linkNode source property target =>
    putNat 5 ++ putTarget source ++ putText property ++ putTarget target
  | .linkNodeArray node property children =>
    putNat 6 ++ putNat node.index ++ putText property ++
      putList (fun id => putNat id.index) children
  | .empty node property => putNat 7 ++ putNat node.index ++ putText property
  | .rootCstNode id text => putNat 8 ++ putNat id.index ++ putText text
  | .compositeCstNode id => putNat 9 ++ putNat id.index
  | .leafCstNode id tokenType offset length range =>
    putNat 10 ++ putNat id.index ++ putText tokenType ++ putNat offset ++ putNat length ++
      putRange range
  | .popCstNode => putNat 11
  | .error kind e => putNat 12 ++ putNat (if kind = .lexer then 0 else 1) ++ putError e
  | .returnRoot root => putNat 13 ++ putNat root.index

/-- The instructions of a frame, without its digest. -/
def putBody (instructions : List Instruction) : List UInt8 := putList putInstruction instructions

/-- **A frame**: the digest of the sender's table and the instructions. -/
def encode (digest : UInt64) (instructions : List Instruction) : List UInt8 :=
  putNat digest.toNat ++ putBody instructions

/-! ## Reading -/

/-- Why bytes are no frame. -/
inductive Fault where
  | unexpectedEnd
  | badNumber
  | badBool
  | badOption
  | badText
  | unknownAlternative
deriving DecidableEq, Repr, Inhabited

/-- The text of a fault. -/
def Fault.message : Fault → String
  | unexpectedEnd => "Hit the end of buffer, expected more data"
  | badNumber => "Found a varint that didn't terminate. Is the usize too big for this platform?"
  | badBool => "Found a bool that wasn't 0 or 1"
  | badOption => "Found an Option discriminant that wasn't 0 or 1"
  | badText => "Tried to parse invalid utf-8"
  | unknownAlternative => "Serde Deserialization Error"

/-- A reader takes bytes from the front. -/
abbrev Reader := StateT (List UInt8) (Except Fault)

/-- The next byte. -/
def takeByte : Reader UInt8
  | [] => .error .unexpectedEnd
  | b :: bytes => .ok (b, bytes)

/-- The next `n` bytes. -/
def takeBytes (n : Nat) : Reader (List UInt8) := fun bytes =>
  let taken := bytes.take n
  if taken.length < n then .error .unexpectedEnd else .ok (taken, bytes.drop n)

/-- A number of at most `n` groups, the last of which is at most `limit` if
it is the `n`-th; `shift` bits have been read. -/
def takeGroups (limit : Nat) : Nat → Nat → Nat → Reader Nat
  | 0, _, _ => throw .badNumber
  | n + 1, shift, value => do
    let b ← takeByte
    let value := value + (b.toNat % 128) * 2 ^ shift
    if b.toNat < 128 then
      if n = 0 ∧ limit < b.toNat then throw .badNumber else return value
    else takeGroups limit n (shift + 7) value

/-- A number of 32 bits. -/
def takeU32 : Reader Nat := takeGroups 0x0f 5 0 0

/-- A number of 64 bits. -/
def takeU64 : Reader Nat := takeGroups 0x01 10 0 0

/-- The signed number an unsigned one stands for. -/
def unzigzag (n : Nat) : Int := if n % 2 = 0 then Int.ofNat (n / 2) else Int.negSucc (n / 2)

/-- A signed number of 64 bits. -/
def takeI64 : Reader Int := return unzigzag (← takeU64)

/-- A truth value. -/
def takeBool : Reader Bool := do
  match ← takeByte with
  | 0 => return false
  | 1 => return true
  | _ => throw .badBool

/-- A text. -/
def takeText : Reader String := do
  let bytes ← takeBytes (← takeU64)
  match String.fromUTF8? bytes.toByteArray with
  | some s => return s
  | none => throw .badText

/-- `n` items. -/
def takeItems {α : Type} (take : Reader α) : Nat → Reader (List α)
  | 0 => return []
  | n + 1 => do
    let item ← take
    return item :: (← takeItems take n)

/-- A list. -/
def takeList {α : Type} (take : Reader α) : Reader (List α) := do
  takeItems take (← takeU64)

/-- A value that may be missing. -/
def takeOption {α : Type} (take : Reader α) : Reader (Option α) := do
  match ← takeByte with
  | 0 => return none
  | 1 => return some (← take)
  | _ => throw .badOption

/-- A position. -/
def takePosition : Reader Position := return ⟨← takeU32, ← takeU32⟩

/-- A range. -/
def takeRange : Reader Range := return ⟨← takePosition, ← takePosition⟩

/-- The handle of an abstract node. -/
def takeNode : Reader NodeId := return ⟨← takeU32⟩

/-- The handle of a concrete node. -/
def takeCst : Reader CstId := return ⟨← takeU32⟩

/-- A scalar. -/
def takeScalar : Reader Scalar := do
  match ← takeU32 with
  | 0 => return .bool (← takeBool)
  | 1 => return .int (← takeI64)
  | 2 => return .str (← takeText)
  | _ => throw .unknownAlternative

/-- The node an instruction speaks of. -/
def takeTarget : Reader Target := do
  match ← takeU32 with
  | 0 => return .cst (← takeCst)
  | 1 => return .ast (← takeNode)
  | _ => throw .unknownAlternative

/-- A reference. -/
def takeReference : Reader SentReference := return ⟨← takeText, ← takeOption takeCst⟩

/-- An error. -/
def takeError : Reader SyntaxError := return ⟨← takeText, ← takeU64, ← takeU64, ← takeRange⟩

/-- Where an error came from. -/
def takeErrorKind : Reader ErrorKind := do
  match ← takeU32 with
  | 0 => return .lexer
  | 1 => return .parser
  | _ => throw .unknownAlternative

/-- An instruction. -/
def takeInstruction : Reader Instruction := do
  match ← takeU32 with
  | 0 => return .allocate (← takeU32) (← takeU32)
  | 1 => return .property (← takeTarget) (← takeText) (← takeScalar)
  | 2 => return .propertyArray (← takeNode) (← takeText) (← takeList takeScalar)
  | 3 => return .reference (← takeNode) (← takeText) (← takeReference)
  | 4 => return .referenceArray (← takeNode) (← takeText) (← takeList takeReference)
  | 5 => return .linkNode (← takeTarget) (← takeText) (← takeTarget)
  | 6 => return .linkNodeArray (← takeNode) (← takeText) (← takeList takeNode)
  | 7 => return .empty (← takeNode) (← takeText)
  | 8 => return .rootCstNode (← takeCst) (← takeText)
  | 9 => return .compositeCstNode (← takeCst)
  | 10 => return .leafCstNode (← takeCst) (← takeText) (← takeU64) (← takeU64) (← takeRange)
  | 11 => return .popCstNode
  | 12 => return .error (← takeErrorKind) (← takeError)
  | 13 => return .returnRoot (← takeNode)
  | _ => throw .unknownAlternative

/-- Why a frame is refused. -/
inductive Refusal where
  | malformed (fault : Fault)
  /-- The sender's table is another one. -/
  | grammarMismatch (sent : Nat)
deriving DecidableEq, Repr, Inhabited

/-- The text of a malformed frame. -/
def malformedMessage (fault : Fault) : String :=
  "failed to decode instruction stream: " ++ fault.message

/-- A frame: digest and instructions. -/
def takeFrame : Reader (Nat × List Instruction) := return (← takeU64, ← takeList takeInstruction)

/-- **The instructions of a frame**, for a receiver whose table has the
digest. The frame is read as a whole before the digests are compared; bytes
after it are ignored. -/
def decode (digest : UInt64) (bytes : List UInt8) : Except Refusal (List Instruction) :=
  match takeFrame bytes with
  | .error fault => .error (.malformed fault)
  | .ok ((sent, instructions), _) =>
    if sent = digest.toNat then .ok instructions else .error (.grammarMismatch sent)

end Wire

end Transfer

end Workbench
