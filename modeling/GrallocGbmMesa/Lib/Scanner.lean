import GrallocGbmMesa.Lib.ByteStream
import GrallocGbmMesa.Lib.Checked

/-!
# Scanners

A scanner that has run past the end of its bytes, or has met what it does not expect, goes on
and says so only when it is asked.  What matters of it is which bytes it takes for which value.
-/

namespace ByteStream

open Checked

structure Cursor where
  remaining : List Byte
  ok : Bool := true
  deriving DecidableEq, Repr

/-- An error is a fault of the process that scans, bad bytes are not one. -/
abbrev Scanner (ε α : Type) := StateT Cursor (Except ε) α

namespace Scanner

variable {ε α β : Type}

/-- Take the next `size` bytes; without them the cursor stays where it is, and is bad. -/
def advance (size : ℕ) : Scanner ε (Option (List Byte)) := fun cursor =>
  if cursor.ok ∧ size ≤ cursor.remaining.length then
    .ok (some (cursor.remaining.take size),
      { cursor with remaining := cursor.remaining.drop size })
  else .ok (none, { cursor with ok := false })

def ok : Scanner ε Bool := fun cursor => .ok (cursor.ok, cursor)

def reject : Scanner ε Unit := fun cursor => .ok ((), { cursor with ok := false })

def require (condition : Prop) [Decidable condition] : Scanner ε Unit :=
  if condition then return () else reject

def fault (error : ε) : Scanner ε α := fun _ => .error error

/-- A word of `count` bytes, if there are as many. -/
def word (w count : ℕ) : Scanner ε (Option (BitVec w)) := do
  match ← advance count with
  | some src => return some (ofLittleEndian w src)
  | none => return none

/-- A loop that reads `left` more values, the next one at `index`, and stops early at a bad
cursor.  An index beyond `limit` cannot be counted up to. -/
def each (overflow : ε) (limit : ℕ) (body : Scanner ε α) : ℕ → ℕ → Scanner ε (List α)
  | 0, _ => return []
  | left + 1, index => do
      if ← ok then
        let head ← body
        if index < limit then
          let tail ← each overflow limit body left (index + 1)
          return head :: tail
        else fault overflow
      else return []

/-- The value, if the cursor is good in the end. -/
def finish (scanner : Scanner ε α) (bytes : List Byte) : Except ε (Option α) := do
  let (value, cursor) ← scanner { remaining := bytes }
  return if cursor.ok then some value else none

/-- The value, whatever the cursor is in the end. -/
def value (scanner : Scanner ε α) (bytes : List Byte) : Except ε α := do
  let (value, _) ← scanner { remaining := bytes }
  return value

/-! ## What a scanner accepts -/

/-- A bad cursor stays bad. -/
def Sticky (scanner : Scanner ε α) : Prop :=
  ∀ bytes value cursor, scanner ⟨bytes, false⟩ = .ok (value, cursor) → cursor.ok = false

/-- There is a value exactly if the cursor is good. -/
def Tells (scanner : Scanner ε (Option α)) : Prop :=
  ∀ cursor read last, scanner cursor = .ok (read, last) → last.ok = read.isSome

/-- The bytes that are accepted are those that the valid values are written as. -/
structure Parses (scanner : Scanner ε α) (valid : α → Prop) (write : α → List (List Byte)) :
    Prop where
  accepts : ∀ {bytes : List Byte} {value : α} {rest : List Byte},
    scanner ⟨bytes, true⟩ = .ok (value, ⟨rest, true⟩) ↔
      valid value ∧ bytes = (write value).flatten ++ rest
  sticky : Sticky scanner

theorem bind_eq_ok {first : Scanner ε α} {next : α → Scanner ε β} {cursor last : Cursor}
    {value : β} : (first >>= next) cursor = .ok (value, last) ↔
      ∃ part between, first cursor = .ok (part, between) ∧
        next part between = .ok (value, last) := by
  change (first cursor >>= fun result => next result.1 result.2) = _ ↔ _
  rw [Checked.bind_eq_ok]
  constructor
  · rintro ⟨⟨part, between⟩, here, there⟩
    exact ⟨part, between, here, there⟩
  · rintro ⟨part, between, here, there⟩
    exact ⟨(part, between), here, there⟩

theorem pure_eq_ok {value result : α} {cursor last : Cursor} :
    (pure value : Scanner ε α) cursor = .ok (result, last) ↔ value = result ∧ cursor = last := by
  change Except.ok (value, cursor) = _ ↔ _
  rw [Except.ok.injEq, Prod.mk.injEq]

namespace Sticky

theorem pure (value : α) : Sticky (Pure.pure value : Scanner ε α) := by
  intro bytes result cursor h
  obtain ⟨-, rfl⟩ := pure_eq_ok.mp h
  rfl

theorem bind {first : Scanner ε α} {next : α → Scanner ε β} (hfirst : Sticky first)
    (hnext : ∀ part, Sticky (next part)) : Sticky (first >>= next) := by
  intro bytes value cursor h
  obtain ⟨part, ⟨between, good⟩, here, there⟩ := bind_eq_ok.mp h
  have bad : good = false := hfirst _ _ _ here
  subst bad
  exact hnext part _ _ _ there

theorem advance (size : ℕ) : Sticky (advance size : Scanner ε (Option (List Byte))) := by
  intro bytes value cursor h
  cases h
  rfl

theorem fault (error : ε) : Sticky (fault error : Scanner ε α) := nofun

theorem ok : Sticky (ok : Scanner ε Bool) := by
  intro bytes value cursor h
  cases h
  rfl

theorem reject : Sticky (reject : Scanner ε Unit) := by
  intro bytes value cursor h
  cases h
  rfl

theorem ite {condition : Prop} [Decidable condition] {first second : Scanner ε α}
    (hfirst : Sticky first) (hsecond : Sticky second) :
    Sticky (if condition then first else second) := by
  split
  · exact hfirst
  · exact hsecond

theorem word (w count : ℕ) : Sticky (word w count : Scanner ε (Option (BitVec w))) := by
  refine bind (advance count) fun src => ?_
  cases src with
  | none => exact pure _
  | some src => exact pure _

theorem each {overflow : ε} {limit : ℕ} {body : Scanner ε α} (hbody : Sticky body) (left : ℕ) :
    ∀ index, Sticky (each overflow limit body left index) := by
  induction left with
  | zero => exact fun _ => pure _
  | succ left ih =>
      intro index
      refine bind ok fun good => ite ?_ (pure _)
      refine bind hbody fun head => ite ?_ (fault _)
      exact bind (ih _) fun tail => pure _

end Sticky

namespace Tells

theorem advance (size : ℕ) : Tells (advance size : Scanner ε (Option (List Byte))) := by
  intro cursor read last h
  unfold Scanner.advance at h
  split at h
  · next enough =>
      cases h
      exact enough.1
  · cases h
    rfl

theorem bind {first : Scanner ε β} {next : β → Scanner ε (Option α)}
    (hnext : ∀ part, Tells (next part)) : Tells (first >>= next) := by
  intro cursor read last h
  obtain ⟨part, between, -, there⟩ := bind_eq_ok.mp h
  exact hnext part _ _ _ there

/-- A value that is made of another one. -/
theorem bind_pure {first : Scanner ε (Option β)} {next : Option β → Scanner ε (Option α)}
    (hfirst : Tells first) (hnext : ∀ part, ∃ read, next part = pure read ∧
      read.isSome = part.isSome) : Tells (first >>= next) := by
  intro cursor read last h
  obtain ⟨part, between, here, there⟩ := bind_eq_ok.mp h
  obtain ⟨made, same, tells⟩ := hnext part
  rw [same] at there
  obtain ⟨rfl, rfl⟩ := pure_eq_ok.mp there
  rw [tells]
  exact hfirst _ _ _ here

theorem word (w count : ℕ) : Tells (word w count : Scanner ε (Option (BitVec w))) := by
  refine bind_pure (advance count) fun src => ?_
  cases src with
  | none => exact ⟨_, rfl, rfl⟩
  | some src => exact ⟨_, rfl, rfl⟩

end Tells

namespace Parses

variable {scanner : Scanner ε α} {valid valid' : α → Prop} {write write' : α → List (List Byte)}

theorem congr (h : Parses scanner valid write) (same : ∀ value, valid value ↔ valid' value)
    (written : ∀ value, valid value → write value = write' value) :
    Parses scanner valid' write' where
  accepts {bytes value rest} := by
    rw [h.accepts, ← same]
    refine and_congr_right fun holds => ?_
    rw [written value holds]
  sticky := h.sticky

theorem pure (result : α) :
    Parses (Pure.pure result : Scanner ε α) (· = result) (fun _ => []) where
  accepts := by
    intro bytes value rest
    rw [pure_eq_ok, Cursor.mk.injEq]
    constructor
    · rintro ⟨rfl, rfl, -⟩
      exact ⟨rfl, rfl⟩
    · rintro ⟨rfl, rfl⟩
      exact ⟨rfl, rfl, rfl⟩
  sticky := .pure result

/-- One after the other: `part` is what the first one found of the value. -/
theorem bind_of {first : Scanner ε α} {next : α → Scanner ε β} {valid' : α → β → Prop}
    {write' : α → β → List (List Byte)} (part : β → α) (hfirst : Parses first valid write)
    (hnext : ∀ value, valid value → Parses (next value) (valid' value) (write' value))
    (sticky : ∀ value, Sticky (next value))
    (found : ∀ value result, valid value → valid' value result → part result = value) :
    Parses (first >>= next) (fun result => valid (part result) ∧ valid' (part result) result)
      (fun result => write (part result) ++ write' (part result) result) where
  accepts := by
    intro bytes result rest
    rw [bind_eq_ok, List.flatten_append, List.append_assoc]
    constructor
    · rintro ⟨value, ⟨between, good⟩, here, there⟩
      cases good with
      | false => cases sticky value _ _ _ there
      | true =>
          obtain ⟨holds, rfl⟩ := hfirst.accepts.mp here
          obtain ⟨holds', rfl⟩ := (hnext value holds).accepts.mp there
          rw [found value result holds holds']
          exact ⟨⟨holds, holds'⟩, rfl⟩
    · rintro ⟨⟨holds, holds'⟩, rfl⟩
      exact ⟨_, ⟨_, true⟩, hfirst.accepts.mpr ⟨holds, rfl⟩,
        (hnext _ holds).accepts.mpr ⟨holds', rfl⟩⟩
  sticky := hfirst.sticky.bind sticky

theorem bind {first : Scanner ε α} {next : α → Scanner ε β} {valid' : α → β → Prop}
    {write' : α → β → List (List Byte)} (part : β → α) (hfirst : Parses first valid write)
    (hnext : ∀ value, Parses (next value) (valid' value) (write' value))
    (found : ∀ value result, valid' value result → part result = value) :
    Parses (first >>= next) (fun result => valid (part result) ∧ valid' (part result) result)
      (fun result => write (part result) ++ write' (part result) result) :=
  bind_of part hfirst (fun value _ => hnext value) (fun value => (hnext value).sticky)
    fun value result _ => found value result

/-- The parts of a record are read in order.  Before a part is read `E` says what the earlier
ones are, and `Q` what holds of the later ones. -/
theorem field {first : Scanner ε α} {next : α → Scanner ε β} {E Q : β → Prop}
    {write' : β → List (List Byte)} (part : β → α) (hfirst : Parses first valid write)
    (hnext : ∀ value, Parses (next value)
      (fun result => (E result ∧ part result = value) ∧ Q result) write') :
    Parses (first >>= next) (fun result => E result ∧ valid (part result) ∧ Q result)
      (fun result => write (part result) ++ write' result) :=
  (bind part hfirst hnext fun _ _ h => h.1.2).congr
    (fun result => by
      constructor
      · rintro ⟨holds, ⟨earlier, -⟩, later⟩
        exact ⟨earlier, holds, later⟩
      · rintro ⟨earlier, holds, later⟩
        exact ⟨holds, ⟨earlier, rfl⟩, later⟩)
    fun _ _ => rfl

/-- A record that is put together from its parts. -/
theorem record {E : α → Prop} {result : α} (same : ∀ value, value = result ↔ E value) :
    Parses (Pure.pure result : Scanner ε α) (fun value => E value ∧ True) (fun _ => []) :=
  (pure result).congr (fun value => by rw [same, and_true]) fun _ _ => rfl

theorem fault (error : ε) (write : α → List (List Byte)) :
    Parses (fault error : Scanner ε α) (fun _ => False) write where
  accepts := ⟨nofun, fun h => h.1.elim⟩
  sticky := .fault error

theorem require (condition : Prop) [Decidable condition] :
    Parses (require condition : Scanner ε Unit) (fun _ => condition) (fun _ => []) where
  accepts := by
    intro bytes _ rest
    unfold Scanner.require
    by_cases holds : condition
    · rw [if_pos holds, pure_eq_ok, Cursor.mk.injEq]
      constructor
      · rintro ⟨-, rfl, -⟩
        exact ⟨holds, rfl⟩
      · rintro ⟨-, rfl⟩
        exact ⟨rfl, rfl, rfl⟩
    · rw [if_neg holds]
      constructor
      · intro h
        cases h
      · rintro ⟨h, -⟩
        exact absurd h holds
  sticky := Sticky.ite (.pure ()) .reject

theorem advance (size : ℕ) :
    Parses (advance size : Scanner ε (Option (List Byte)))
      (fun src => ∃ bytes, src = some bytes ∧ bytes.length = size) (fun src => src.toList) where
  accepts := by
    intro bytes value rest
    unfold Scanner.advance
    by_cases enough : size ≤ bytes.length
    · rw [if_pos ⟨rfl, enough⟩, Except.ok.injEq, Prod.mk.injEq, Cursor.mk.injEq]
      constructor
      · rintro ⟨rfl, rfl, -⟩
        refine ⟨⟨_, rfl, List.length_take_of_le enough⟩, ?_⟩
        simp
      · rintro ⟨⟨taken, rfl, rfl⟩, rfl⟩
        simp
    · rw [if_neg fun both => enough both.2]
      constructor
      · intro h
        cases h
      · rintro ⟨⟨taken, rfl, rfl⟩, rfl⟩
        exact absurd (by simp) enough
  sticky := .advance size

theorem word {w count : ℕ} (whole : 8 * count = w) :
    Parses (word w count : Scanner ε (Option (BitVec w))) (fun read => read.isSome = true)
      (fun read => (read.map (littleEndian count)).toList) := by
  have made : ∀ src : Option (List Byte), (∃ bytes, src = some bytes ∧ bytes.length = count) →
      Parses (match src with
          | some src => Pure.pure (some (ofLittleEndian w src))
          | none => Pure.pure none : Scanner ε (Option (BitVec w)))
        (fun read => read = src.map (ofLittleEndian w)) (fun _ => []) := by
    rintro _ ⟨src, rfl, -⟩
    exact pure _
  refine (bind_of (fun read => read.map (littleEndian count)) (advance count) made
    (fun src => ?_) ?_).congr ?_ ?_
  · cases src with
    | none => exact Sticky.pure _
    | some src => exact Sticky.pure _
  · rintro _ _ ⟨src, rfl, rfl⟩ rfl
    exact congrArg some (littleEndian_ofLittleEndian (Nat.le_of_eq whole))
  · rintro (_ | value)
    · simp
    · simp [ofLittleEndian_littleEndian (Nat.le_of_eq whole.symm)]
  · intro value _
    exact List.append_nil _

/-- As many values as were asked for, if they can be counted. -/
protected theorem each {overflow : ε} {limit : ℕ} (h : Parses scanner valid write) (left : ℕ) :
    ∀ index, index ≤ limit → Parses (each overflow limit scanner left index)
      (fun values => values.length = left ∧ (∀ value ∈ values, valid value) ∧
        index + left ≤ limit)
      (fun values => values.flatMap write) := by
  induction left with
  | zero =>
      intro index small
      refine (pure []).congr (fun values => ?_) fun values h => ?_
      · constructor
        · rintro rfl
          exact ⟨rfl, List.forall_mem_nil _, small⟩
        · rintro ⟨none, -⟩
          exact List.eq_nil_of_length_eq_zero none
      · rw [h]
        rfl
  | succ left ih =>
      intro index small
      refine ⟨?_, h.sticky.each _ index⟩
      intro bytes values rest
      have good : Scanner.each overflow limit scanner (left + 1) index ⟨bytes, true⟩ =
          (scanner >>= fun head => if index < limit then
            Scanner.each overflow limit scanner left (index + 1) >>= fun tail =>
              Pure.pure (head :: tail)
            else Scanner.fault overflow) ⟨bytes, true⟩ := rfl
      rw [good, bind_eq_ok]
      by_cases inside : index < limit
      · simp only [if_pos inside, bind_eq_ok, pure_eq_ok]
        constructor
        · rintro ⟨head, ⟨between, _ | _⟩, first, tail, last, others, rfl, rfl⟩
          · cases (h.sticky.each _ _) _ _ _ others
          obtain ⟨holds, rfl⟩ := h.accepts.mp first
          obtain ⟨⟨rfl, all, below⟩, rfl⟩ := (ih (index + 1) inside).accepts.mp others
          refine ⟨⟨rfl, List.forall_mem_cons.mpr ⟨holds, all⟩, by omega⟩, ?_⟩
          rw [List.flatMap_cons, List.flatten_append, List.append_assoc]
        · rintro ⟨⟨counted, all, below⟩, rfl⟩
          cases values with
          | nil => cases counted
          | cons head tail =>
              obtain ⟨holds, all⟩ := List.forall_mem_cons.mp all
              rw [List.flatMap_cons, List.flatten_append, List.append_assoc]
              refine ⟨head, ⟨_, true⟩, h.accepts.mpr ⟨holds, rfl⟩, tail, ⟨rest, true⟩, ?_, rfl,
                rfl⟩
              exact (ih (index + 1) inside).accepts.mpr
                ⟨⟨Nat.succ.inj counted, all, by omega⟩, rfl⟩
      · simp only [if_neg inside]
        constructor
        · rintro ⟨_, _, _, ⟨⟩⟩
        · rintro ⟨⟨-, -, below⟩, -⟩
          omega

/-- What comes out in the end is the one value whose bytes come first. -/
theorem finish_eq_some (h : Parses scanner valid write) {bytes : List Byte} {value : α} :
    finish scanner bytes = .ok (some value) ↔
      valid value ∧ (write value).flatten <+: bytes := by
  unfold finish
  rw [Checked.bind_eq_ok]
  constructor
  · rintro ⟨⟨found, rest, _ | _⟩, here, there⟩
    · cases there
    cases there
    obtain ⟨holds, rfl⟩ := h.accepts.mp here
    exact ⟨holds, List.prefix_append ..⟩
  · rintro ⟨holds, rest, rfl⟩
    exact ⟨(value, ⟨rest, true⟩), h.accepts.mpr ⟨holds, rfl⟩, rfl⟩

theorem value_eq_some {scanner : Scanner ε (Option α)} {valid : Option α → Prop}
    {write : Option α → List (List Byte)} (h : Parses scanner valid write)
    (tells : Tells scanner) {bytes : List Byte} {read : α} :
    value scanner bytes = .ok (some read) ↔
      valid (some read) ∧ (write (some read)).flatten <+: bytes := by
  rw [← h.finish_eq_some]
  unfold value finish
  rw [Checked.bind_eq_ok, Checked.bind_eq_ok]
  refine exists_congr fun found => and_congr_right fun here => ?_
  obtain ⟨found, last⟩ := found
  have told := tells _ _ _ here
  cases found with
  | none =>
      rw [Option.isSome_none] at told
      simp [told]
  | some found =>
      rw [Option.isSome_some] at told
      simp [told]

end Parses

end Scanner

end ByteStream
