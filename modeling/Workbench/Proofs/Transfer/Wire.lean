import Workbench.Transfer.Wire
import Mathlib.Algebra.GroupWithZero.Nat
/-!
# Frames delimit themselves

What is written is read back, and its reader knows where it ends: it leaves
what follows, and misses something in every part that stops short of the end
(`Delivers`). Both hold of what is read one thing after the other if they hold
of each thing, so they are shown once for numbers, texts and lists and then
follow the way an instruction is put together. A frame that was cut off is
therefore never taken for a shorter one.

Numbers have to fit the bits that a reader allows them (`Instruction.Fits`).
-/

namespace Workbench

/-! ## What fits -/

/-- A text whose length takes 64 bits. -/
def Text.Fits (s : String) : Prop := s.utf8ByteSize < UInt64.size

instance (s : String) : Decidable (Text.Fits s) :=
  inferInstanceAs (Decidable (s.utf8ByteSize < UInt64.size))

/-- A scalar whose number takes 64 bits. -/
def Scalar.Fits : Scalar → Prop
  | .bool _ => True
  | .int i => -9223372036854775808 ≤ i ∧ i ≤ 9223372036854775807
  | .str s => Text.Fits s

instance : (v : Scalar) → Decidable v.Fits
  | .bool _ => inferInstanceAs (Decidable True)
  | .int i => inferInstanceAs (Decidable (-9223372036854775808 ≤ i ∧ i ≤ 9223372036854775807))
  | .str s => inferInstanceAs (Decidable (Text.Fits s))

/-- A position that takes 32 bits each way. -/
def Position.Fits (p : Position) : Prop := p.line < UInt32.size ∧ p.character < UInt32.size

instance (p : Position) : Decidable p.Fits :=
  inferInstanceAs (Decidable (p.line < UInt32.size ∧ p.character < UInt32.size))

/-- A range between two such positions. -/
def Range.Fits (r : Range) : Prop := r.start.Fits ∧ r.stop.Fits

instance (r : Range) : Decidable r.Fits := inferInstanceAs (Decidable (r.start.Fits ∧ r.stop.Fits))

/-- An error whose place takes 64 bits. -/
def SyntaxError.Fits (e : SyntaxError) : Prop :=
  Text.Fits e.message ∧ e.offset < UInt64.size ∧ e.length < UInt64.size ∧ e.range.Fits

instance (e : SyntaxError) : Decidable e.Fits :=
  inferInstanceAs (Decidable (Text.Fits e.message ∧ e.offset < UInt64.size ∧
    e.length < UInt64.size ∧ e.range.Fits))

/-- A handle of 32 bits. -/
def CstId.Fits (id : CstId) : Prop := id.index < UInt32.size

instance (id : CstId) : Decidable id.Fits := inferInstanceAs (Decidable (id.index < UInt32.size))

/-- A handle of 32 bits. -/
def NodeId.Fits (id : NodeId) : Prop := id.index < UInt32.size

instance (id : NodeId) : Decidable id.Fits := inferInstanceAs (Decidable (id.index < UInt32.size))

namespace Transfer

/-- A node with a handle of 32 bits. -/
def Target.Fits : Target → Prop
  | .cst id => id.Fits
  | .ast id => id.Fits

instance : (t : Target) → Decidable t.Fits
  | .cst id => inferInstanceAs (Decidable id.Fits)
  | .ast id => inferInstanceAs (Decidable id.Fits)

/-- A reference whose leaf has a handle of 32 bits. -/
def SentReference.Fits (r : SentReference) : Prop :=
  Text.Fits r.refText ∧ ∀ id ∈ r.refNode, id.Fits

instance (r : SentReference) : Decidable r.Fits :=
  inferInstanceAs (Decidable (Text.Fits r.refText ∧ ∀ id ∈ r.refNode, id.Fits))

/-- A list of things that fit, so many that their number takes 64 bits. -/
def AllFit {α : Type} (fits : α → Prop) (items : List α) : Prop :=
  items.length < UInt64.size ∧ ∀ a ∈ items, fits a

instance {α : Type} (fits : α → Prop) [DecidablePred fits] (items : List α) :
    Decidable (AllFit fits items) :=
  inferInstanceAs (Decidable (items.length < UInt64.size ∧ ∀ a ∈ items, fits a))

/-- **An instruction that fits**: handles, lines and characters take 32 bits;
offsets, lengths and scalars take 64. -/
def Instruction.Fits : Instruction → Prop
  | .allocate cst ast => cst < UInt32.size ∧ ast < UInt32.size
  | .property target feature value => target.Fits ∧ Text.Fits feature ∧ value.Fits
  | .propertyArray node feature values =>
    node.Fits ∧ Text.Fits feature ∧ AllFit Scalar.Fits values
  | .reference node feature ref => node.Fits ∧ Text.Fits feature ∧ ref.Fits
  | .referenceArray node feature refs =>
    node.Fits ∧ Text.Fits feature ∧ AllFit SentReference.Fits refs
  | .linkNode source feature target => source.Fits ∧ Text.Fits feature ∧ target.Fits
  | .linkNodeArray node feature children =>
    node.Fits ∧ Text.Fits feature ∧ AllFit NodeId.Fits children
  | .empty node feature => node.Fits ∧ Text.Fits feature
  | .rootCstNode id text => id.Fits ∧ Text.Fits text
  | .compositeCstNode id => id.Fits
  | .leafCstNode id tokenType offset length range =>
    id.Fits ∧ Text.Fits tokenType ∧ offset < UInt64.size ∧ length < UInt64.size ∧ range.Fits
  | .popCstNode => True
  | .error _ e => e.Fits
  | .returnRoot root => root.Fits

instance : (i : Instruction) → Decidable i.Fits
  | .allocate cst ast => inferInstanceAs (Decidable (cst < UInt32.size ∧ ast < UInt32.size))
  | .property target feature value =>
    inferInstanceAs (Decidable (target.Fits ∧ Text.Fits feature ∧ value.Fits))
  | .propertyArray node feature values =>
    inferInstanceAs (Decidable (node.Fits ∧ Text.Fits feature ∧ AllFit Scalar.Fits values))
  | .reference node feature ref =>
    inferInstanceAs (Decidable (node.Fits ∧ Text.Fits feature ∧ ref.Fits))
  | .referenceArray node feature refs =>
    inferInstanceAs (Decidable (node.Fits ∧ Text.Fits feature ∧ AllFit SentReference.Fits refs))
  | .linkNode source feature target =>
    inferInstanceAs (Decidable (source.Fits ∧ Text.Fits feature ∧ target.Fits))
  | .linkNodeArray node feature children =>
    inferInstanceAs (Decidable (node.Fits ∧ Text.Fits feature ∧ AllFit NodeId.Fits children))
  | .empty node feature => inferInstanceAs (Decidable (node.Fits ∧ Text.Fits feature))
  | .rootCstNode id text => inferInstanceAs (Decidable (id.Fits ∧ Text.Fits text))
  | .compositeCstNode id => inferInstanceAs (Decidable id.Fits)
  | .leafCstNode id tokenType offset length range =>
    inferInstanceAs (Decidable (id.Fits ∧ Text.Fits tokenType ∧ offset < UInt64.size ∧
      length < UInt64.size ∧ range.Fits))
  | .popCstNode => inferInstanceAs (Decidable True)
  | .error _ e => inferInstanceAs (Decidable e.Fits)
  | .returnRoot root => inferInstanceAs (Decidable root.Fits)

namespace Wire

/-- **A reader that finds a value in just these bytes**: it leaves what comes
after them, and a part of them is not enough. -/
structure Delivers {α : Type} (take : Reader α) (bytes : List UInt8) (a : α) : Prop where
  taken : ∀ rest, take (bytes ++ rest) = .ok (a, rest)
  cut : ∀ pre rest, pre ++ rest = bytes → rest ≠ [] → take pre = .error .unexpectedEnd

namespace Delivers

variable {α β : Type} {take : Reader α} {f : α → Reader β} {bytes more : List UInt8} {a : α} {b : β}

theorem pure (a : α) : Delivers (Pure.pure a) [] a where
  taken _ := rfl
  cut _ _ heq hrest := absurd (List.append_eq_nil_iff.mp heq).2 hrest

/-- **One thing after the other.** Bytes that stop short of the end stop
within the first or behind it. -/
theorem bind (h : Delivers take bytes a) (hnext : Delivers (f a) more b) :
    Delivers (take >>= f) (bytes ++ more) b where
  taken rest := by
    simp only [Bind.bind, StateT.bind, Except.bind, List.append_assoc, h.taken]
    exact hnext.taken rest
  cut pre rest heq hrest := by
    rcases List.append_eq_append_iff.mp heq with ⟨tail, hbytes, htail⟩ | ⟨part, rfl, hmore⟩
    · by_cases hnil : tail = []
      · -- just the first thing is there, and nothing of the second
        subst hnil
        have hfound : take pre = .ok (a, []) := by
          rw [← List.append_nil pre, ← hbytes]
          exact (congrArg take (List.append_nil bytes).symm).trans (h.taken [])
        have hmissing : f a [] = .error .unexpectedEnd :=
          hnext.cut [] rest htail hrest
        simp only [Bind.bind, StateT.bind, Except.bind, hfound, hmissing]
      · have hmissing := h.cut pre tail hbytes.symm hnil
        simp only [Bind.bind, StateT.bind, Except.bind, hmissing]
    · have hmissing := hnext.cut part rest hmore.symm hrest
      simp only [Bind.bind, StateT.bind, Except.bind, h.taken, hmissing]

/-- Nothing more has to be read for what is made of a value. -/
theorem last (h : Delivers take bytes a) (hlast : Delivers (f a) [] b) :
    Delivers (take >>= f) bytes b := by
  have hbind := h.bind hlast
  rwa [List.append_nil] at hbind

theorem map (h : Delivers take bytes a) (g : α → β) :
    Delivers (do return g (← take)) bytes (g a) :=
  h.last (pure (g a))

end Delivers

/-! ## Numbers -/

theorem delivers_takeByte (b : UInt8) : Delivers takeByte [b] b where
  taken _ := rfl
  cut pre rest heq hrest := by
    have hlength := congrArg List.length heq
    have hpos := List.length_pos_iff.mpr hrest
    rw [List.length_append, List.length_singleton] at hlength
    obtain rfl := List.length_eq_zero_iff.mp (show pre.length = 0 by omega)
    rfl

theorem toNat_ofNat_of_lt {n : ℕ} (h : n < 256) : (UInt8.ofNat n).toNat = n := by
  rw [UInt8.toNat_ofNat', Nat.mod_eq_of_lt h]

/-- The last group of a number. -/
theorem delivers_lastGroup {limit n m : ℕ} (shift value : ℕ) (hm : m < 128)
    (hlimit : n = 0 → m ≤ limit) :
    Delivers (takeGroups limit (n + 1) shift value) [UInt8.ofNat m] (value + m * 2 ^ shift) := by
  have hbyte : (UInt8.ofNat m).toNat = m := toNat_ofNat_of_lt (by omega)
  have hfits : ¬ (n = 0 ∧ limit < m) := fun ⟨hn, hlt⟩ => by
    have := hlimit hn
    omega
  refine (delivers_takeByte _).last ?_
  simp only [hbyte, hm, hfits, if_true, if_false, Nat.mod_eq_of_lt hm]
  exact .pure _

/-- **A number is read back** if it fits its groups: the last of `n + 1` groups
is at most `limit`. -/
theorem delivers_takeGroups {limit : ℕ} (hlimit : limit < 128) : ∀ (n shift value m : ℕ),
    m < (limit + 1) * 128 ^ n →
    Delivers (takeGroups limit (n + 1) shift value) (putNat m) (value + m * 2 ^ shift) := by
  intro n
  induction n with
  | zero =>
    intro shift value m hm
    rw [Nat.pow_zero] at hm
    rw [putNat, if_pos (by omega)]
    exact delivers_lastGroup shift value (by omega) fun _ => by omega
  | succ n ih =>
    intro shift value m hm
    rw [putNat]
    split
    · next hlast => exact delivers_lastGroup shift value hlast nofun
    · next hmore =>
      have hbyte : (UInt8.ofNat (m % 128 + 128)).toNat = m % 128 + 128 :=
        toNat_ofNat_of_lt (by omega)
      have hlow : (m % 128 + 128) % 128 = m % 128 := by omega
      have hhigh : m / 128 < (limit + 1) * 128 ^ n := by
        rw [Nat.div_lt_iff_lt_mul (by decide), Nat.mul_assoc, ← Nat.pow_succ]
        exact hm
      -- the groups that follow count from seven bits further up
      have hvalue : value + m % 128 * 2 ^ shift + m / 128 * 2 ^ (shift + 7) =
          value + m * 2 ^ shift := by
        have hsplit : m % 128 * 2 ^ shift + m / 128 * (2 ^ shift * 128) =
            (m % 128 + 128 * (m / 128)) * 2 ^ shift := by
          rw [Nat.add_mul, Nat.mul_comm 128, Nat.mul_assoc, Nat.mul_comm 128]
        rw [Nat.pow_add, Nat.add_assoc, show (2 : ℕ) ^ 7 = 128 from rfl, hsplit, Nat.mod_add_div]
      have hrest := ih (shift + 7) (value + m % 128 * 2 ^ shift) (m / 128) hhigh
      rw [hvalue] at hrest
      refine (delivers_takeByte _).bind ?_
      simp only [hbyte, hlow, show ¬ m % 128 + 128 < 128 by omega, if_false]
      exact hrest

/-- A number of 32 bits. -/
theorem delivers_takeU32 {n : ℕ} (h : n < UInt32.size) : Delivers takeU32 (putNat n) n := by
  have hgroups := delivers_takeGroups (show 0x0f < 128 by decide) 4 0 0 n h
  rwa [Nat.pow_zero, Nat.mul_one, Nat.zero_add] at hgroups

/-- A number of 64 bits. -/
theorem delivers_takeU64 {n : ℕ} (h : n < UInt64.size) : Delivers takeU64 (putNat n) n := by
  have hgroups := delivers_takeGroups (show 0x01 < 128 by decide) 9 0 0 n h
  rwa [Nat.pow_zero, Nat.mul_one, Nat.zero_add] at hgroups

theorem unzigzag_zigzag (i : Int) : unzigzag (zigzag i) = i := by
  cases i with
  | ofNat n =>
    rw [zigzag, unzigzag, if_pos (by omega), Nat.mul_div_cancel_left n (by decide)]
  | negSucc n =>
    rw [zigzag, unzigzag, if_neg (by omega), show (2 * n + 1) / 2 = n by omega]

/-- A number of 64 bits with a sign. -/
theorem delivers_takeI64 {i : Int}
    (h : -9223372036854775808 ≤ i ∧ i ≤ 9223372036854775807) :
    Delivers takeI64 (putNat (zigzag i)) i := by
  have hfits : zigzag i < UInt64.size := by
    cases i with
    | ofNat n =>
      have hn : (n : Int) ≤ 9223372036854775807 := h.2
      simp only [zigzag, UInt64.size]
      omega
    | negSucc n =>
      have hn : -9223372036854775808 ≤ -((n : Int) + 1) := h.1
      simp only [zigzag, UInt64.size]
      omega
  have hmap := (delivers_takeU64 hfits).map unzigzag
  rwa [unzigzag_zigzag] at hmap

/-! ## Texts and lists -/

theorem delivers_takeBool (b : Bool) : Delivers takeBool (putBool b) b := by
  refine (delivers_takeByte _).last ?_
  cases b <;> exact .pure _

theorem delivers_takeBytes (bytes : List UInt8) :
    Delivers (takeBytes bytes.length) bytes bytes where
  taken rest := by
    have htake : (bytes ++ rest).take bytes.length = bytes := List.take_left
    have hdrop : (bytes ++ rest).drop bytes.length = rest := List.drop_left
    simp only [takeBytes, htake, hdrop, Nat.lt_irrefl, if_false]
  cut pre rest heq hrest := by
    have hshort : pre.length < bytes.length := by
      have := List.length_pos_iff.mpr hrest
      rw [← heq, List.length_append]
      omega
    simp only [takeBytes, List.take_of_length_le (Nat.le_of_lt hshort), hshort, if_true]

theorem toByteArray_toUTF8 (s : String) : s.toUTF8.data.toList.toByteArray = s.toUTF8 := by
  refine ByteArray.ext ?_
  rw [List.data_toByteArray, Array.toArray_toList]

theorem fromUTF8?_toUTF8 (s : String) : String.fromUTF8? s.toUTF8 = some s :=
  dif_pos s.isValidUTF8

/-- **A text is read back**, if its length fits. -/
theorem delivers_takeText {s : String} (h : Text.Fits s) :
    Delivers takeText (putText s) s := by
  have hlength : s.toUTF8.data.toList.length = s.utf8ByteSize := rfl
  refine (delivers_takeU64 (hlength ▸ h)).bind ((delivers_takeBytes _).last ?_)
  rw [toByteArray_toUTF8, fromUTF8?_toUTF8]
  exact .pure s

section Lists

variable {α : Type} {take : Reader α} {put : α → List UInt8}

theorem delivers_takeItems : ∀ {items : List α}, (∀ a ∈ items, Delivers take (put a) a) →
    Delivers (takeItems take items.length) (items.flatMap put) items
  | [], _ => .pure []
  | a :: items, h => by
    have hitems := delivers_takeItems fun b hb => h b (List.mem_cons_of_mem a hb)
    rw [List.flatMap_cons]
    exact (h a List.mem_cons_self).bind (hitems.map (a :: ·))

/-- **A list is read back** if each of its items is. -/
theorem delivers_takeList {fits : α → Prop} {items : List α} (h : AllFit fits items)
    (hitem : ∀ a, fits a → Delivers take (put a) a) :
    Delivers (takeList take) (putList put items) items :=
  (delivers_takeU64 h.1).bind (delivers_takeItems fun a ha => hitem a (h.2 a ha))

theorem delivers_takeOption {item : Option α} (h : ∀ a ∈ item, Delivers take (put a) a) :
    Delivers (takeOption take) (putOption put item) item := by
  cases item with
  | none => exact (delivers_takeByte 0).last (.pure none)
  | some a => exact (delivers_takeByte 1).bind ((h a rfl).map some)

end Lists

/-! ## Instructions -/

theorem delivers_takeNode {id : NodeId} (h : id.Fits) :
    Delivers takeNode (putNat id.index) id :=
  (delivers_takeU32 h).map NodeId.mk

theorem delivers_takeCst {id : CstId} (h : id.Fits) : Delivers takeCst (putNat id.index) id :=
  (delivers_takeU32 h).map CstId.mk

theorem delivers_takePosition {p : Position} (h : p.Fits) :
    Delivers takePosition (putPosition p) p :=
  (delivers_takeU32 h.1).bind ((delivers_takeU32 h.2).map (Position.mk p.line))

theorem delivers_takeRange {r : Range} (h : r.Fits) : Delivers takeRange (putRange r) r :=
  (delivers_takePosition h.1).bind ((delivers_takePosition h.2).map (Range.mk r.start))

theorem delivers_takeScalar {v : Scalar} (h : v.Fits) : Delivers takeScalar (putScalar v) v := by
  cases v with
  | bool b => exact (delivers_takeU32 (by decide)).bind ((delivers_takeBool b).map Scalar.bool)
  | int i => exact (delivers_takeU32 (by decide)).bind ((delivers_takeI64 h).map Scalar.int)
  | str s => exact (delivers_takeU32 (by decide)).bind ((delivers_takeText h).map Scalar.str)

theorem delivers_takeTarget {t : Target} (h : t.Fits) : Delivers takeTarget (putTarget t) t := by
  cases t with
  | cst id => exact (delivers_takeU32 (by decide)).bind ((delivers_takeCst h).map Target.cst)
  | ast id => exact (delivers_takeU32 (by decide)).bind ((delivers_takeNode h).map Target.ast)

theorem delivers_takeReference {r : SentReference} (h : r.Fits) :
    Delivers takeReference (putReference r) r :=
  (delivers_takeText h.1).bind
    ((delivers_takeOption fun id hid => delivers_takeCst (h.2 id hid)).map
      (SentReference.mk r.refText))

theorem delivers_takeError {e : SyntaxError} (h : e.Fits) :
    Delivers takeError (putError e) e := by
  obtain ⟨hmessage, hoffset, hlength, hrange⟩ := h
  simp only [putError, List.append_assoc]
  exact (delivers_takeText hmessage).bind ((delivers_takeU64 hoffset).bind
    ((delivers_takeU64 hlength).bind ((delivers_takeRange hrange).map _)))

theorem delivers_takeErrorKind (kind : ErrorKind) :
    Delivers takeErrorKind (putNat (if kind = .lexer then 0 else 1)) kind := by
  cases kind <;> exact (delivers_takeU32 (by decide)).last (.pure _)

/-- **An instruction is read back.** Its kind is read first and says what
follows. -/
theorem delivers_takeInstruction {i : Instruction} (h : i.Fits) :
    Delivers takeInstruction (putInstruction i) i := by
  cases i with
  | allocate cst ast =>
    simp only [putInstruction, List.append_assoc]
    exact (delivers_takeU32 (by decide)).bind
      ((delivers_takeU32 h.1).bind ((delivers_takeU32 h.2).map _))
  | property target property value =>
    simp only [putInstruction, List.append_assoc]
    exact (delivers_takeU32 (by decide)).bind ((delivers_takeTarget h.1).bind
      ((delivers_takeText h.2.1).bind ((delivers_takeScalar h.2.2).map _)))
  | propertyArray node property values =>
    simp only [putInstruction, List.append_assoc]
    exact (delivers_takeU32 (by decide)).bind ((delivers_takeNode h.1).bind
      ((delivers_takeText h.2.1).bind
        ((delivers_takeList h.2.2 fun _ => delivers_takeScalar).map _)))
  | reference node property ref =>
    simp only [putInstruction, List.append_assoc]
    exact (delivers_takeU32 (by decide)).bind ((delivers_takeNode h.1).bind
      ((delivers_takeText h.2.1).bind ((delivers_takeReference h.2.2).map _)))
  | referenceArray node property refs =>
    simp only [putInstruction, List.append_assoc]
    exact (delivers_takeU32 (by decide)).bind ((delivers_takeNode h.1).bind
      ((delivers_takeText h.2.1).bind
        ((delivers_takeList h.2.2 fun _ => delivers_takeReference).map _)))
  | linkNode source property target =>
    simp only [putInstruction, List.append_assoc]
    exact (delivers_takeU32 (by decide)).bind ((delivers_takeTarget h.1).bind
      ((delivers_takeText h.2.1).bind ((delivers_takeTarget h.2.2).map _)))
  | linkNodeArray node property children =>
    simp only [putInstruction, List.append_assoc]
    exact (delivers_takeU32 (by decide)).bind ((delivers_takeNode h.1).bind
      ((delivers_takeText h.2.1).bind
        ((delivers_takeList h.2.2 fun _ => delivers_takeNode).map _)))
  | empty node property =>
    simp only [putInstruction, List.append_assoc]
    exact (delivers_takeU32 (by decide)).bind
      ((delivers_takeNode h.1).bind ((delivers_takeText h.2).map _))
  | rootCstNode id text =>
    simp only [putInstruction, List.append_assoc]
    exact (delivers_takeU32 (by decide)).bind
      ((delivers_takeCst h.1).bind ((delivers_takeText h.2).map _))
  | compositeCstNode id =>
    exact (delivers_takeU32 (by decide)).bind ((delivers_takeCst h).map _)
  | leafCstNode id tokenType offset length range =>
    obtain ⟨hid, htype, hoffset, hlength, hrange⟩ := h
    simp only [putInstruction, List.append_assoc]
    exact (delivers_takeU32 (by decide)).bind ((delivers_takeCst hid).bind
      ((delivers_takeText htype).bind ((delivers_takeU64 hoffset).bind
        ((delivers_takeU64 hlength).bind ((delivers_takeRange hrange).map _)))))
  | popCstNode => exact (delivers_takeU32 (by decide)).last (.pure _)
  | error kind e =>
    simp only [putInstruction, List.append_assoc]
    exact (delivers_takeU32 (by decide)).bind
      ((delivers_takeErrorKind kind).bind ((delivers_takeError h).map _))
  | returnRoot root =>
    exact (delivers_takeU32 (by decide)).bind ((delivers_takeNode h).map _)

/-- **A frame is read back.** -/
theorem delivers_takeFrame (digest : UInt64) {instructions : List Instruction}
    (h : AllFit Instruction.Fits instructions) :
    Delivers takeFrame (encode digest instructions) (digest.toNat, instructions) :=
  (delivers_takeU64 digest.toNat_lt).bind
    ((delivers_takeList h fun _ => delivers_takeInstruction).map _)

/-- **Frames delimit themselves and lose nothing.** What fits is read back by a
receiver with the same digest, whatever follows it, and a receiver with any
other digest refuses it for that. A frame that stops short of its end, wherever
it was cut off, is refused by every receiver for being cut off. -/
theorem encode_delimits (digest : UInt64) {instructions : List Instruction}
    (h : AllFit Instruction.Fits instructions) :
    decode digest (encode digest instructions) = .ok instructions ∧
    (∀ pre rest, pre ++ rest = encode digest instructions → rest ≠ [] →
      ∀ receiver, decode receiver pre = .error (.malformed .unexpectedEnd)) ∧
    (∀ receiver, receiver ≠ digest →
      decode receiver (encode digest instructions) = .error (.grammarMismatch digest.toNat)) ∧
    ∀ rest, takeFrame (encode digest instructions ++ rest) =
      .ok ((digest.toNat, instructions), rest) := by
  have hframe := delivers_takeFrame digest h
  have hwhole :
      takeFrame (encode digest instructions) = .ok ((digest.toNat, instructions), []) := by
    have htaken := hframe.taken []
    rwa [List.append_nil] at htaken
  refine ⟨?_, ?_, ?_, hframe.taken⟩
  · simp only [decode, hwhole, if_true]
  · intro pre rest heq hrest receiver
    simp only [decode, hframe.cut pre rest heq hrest]
  · intro receiver hne
    have hother : digest.toNat ≠ receiver.toNat := fun heq => hne (UInt64.toNat_inj.mp heq.symm)
    simp only [decode, hwhole, hother, if_false]

/-- Instructions with the largest and the smallest of everything: handles,
places, numbers, texts and lists. -/
def extremes : List Instruction :=
  [.allocate 4294967295 0,
    .property (.cst ⟨127⟩) "§" (.int (-9223372036854775808)),
    .propertyArray ⟨128⟩ "" [],
    .referenceArray ⟨4294967295⟩ "é" [⟨"", none⟩, ⟨"𝄞", some ⟨16384⟩⟩],
    .leafCstNode ⟨0⟩ "ID" 18446744073709551615 0 ⟨⟨0, 0⟩, ⟨4294967295, 4294967295⟩⟩,
    .popCstNode]

/-- They are read back; without their last byte they are not. -/
theorem encode_delimits_extremes :
    AllFit Instruction.Fits extremes ∧
    decode 5 (encode 5 extremes) = .ok extremes ∧
    decode 7 (encode 5 extremes) = .error (.grammarMismatch 5) ∧
    decode 5 (encode 5 extremes).dropLast = .error (.malformed .unexpectedEnd) := by
  have hfits : AllFit Instruction.Fits extremes := by decide
  obtain ⟨hback, hcut, hother, -⟩ := encode_delimits 5 hfits
  have hne : encode 5 extremes ≠ [] := by decide +kernel
  exact ⟨hfits, hback, hother 7 (by decide),
    hcut _ [(encode 5 extremes).getLast hne] (List.dropLast_concat_getLast hne) nofun 5⟩

end Wire

end Transfer

end Workbench
