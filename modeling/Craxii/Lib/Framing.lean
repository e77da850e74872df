import Craxii.Lib.Utf8Bytes

/-!
Length-framed byte strings: a concatenation of frames can be taken apart in one way only.
-/

namespace Framing

/-- The low `width` bytes of the value, the most significant first. -/
def bigEndian : Nat → Nat → List UInt8
  | 0, _ => []
  | width + 1, value => bigEndian width (value / 256) ++ [UInt8.ofNat value]

def frame (bytes : List UInt8) : List UInt8 :=
  bigEndian 8 bytes.length ++ bytes

def optionalFrame : Option (List UInt8) → List UInt8
  | none => [0]
  | some bytes => 1 :: frame bytes

def Framable (bytes : List UInt8) : Prop :=
  bytes.length < 256 ^ 8

@[simp] theorem length_bigEndian (width value : Nat) : (bigEndian width value).length = width := by
  induction width generalizing value with
  | zero => rfl
  | succ width ih => simp [bigEndian, ih]

theorem ofNat_inj_mod {first second : Nat} (same : UInt8.ofNat first = UInt8.ofNat second) :
    first % 256 = second % 256 := by
  have values := congrArg UInt8.toNat same
  simpa [UInt8.toNat_ofNat'] using values

theorem bigEndian_inj {width : Nat} : ∀ {first second : Nat}, first < 256 ^ width →
    second < 256 ^ width → bigEndian width first = bigEndian width second → first = second := by
  induction width with
  | zero =>
    intro first second firstSmall secondSmall _
    simp only [Nat.pow_zero, Nat.lt_one_iff] at firstSmall secondSmall
    rw [firstSmall, secondSmall]
  | succ width ih =>
    intro first second firstSmall secondSmall same
    obtain ⟨upper, lower⟩ := List.append_inj same (by simp)
    have quotients : first / 256 = second / 256 := by
      apply ih _ _ upper
      · exact Nat.div_lt_of_lt_mul (by simpa [Nat.pow_succ, Nat.mul_comm] using firstSmall)
      · exact Nat.div_lt_of_lt_mul (by simpa [Nat.pow_succ, Nat.mul_comm] using secondSmall)
    have remainders := ofNat_inj_mod (List.singleton_inj.mp lower)
    omega

theorem frame_append_inj {first second firstRest secondRest : List UInt8} (firstOk : Framable first)
    (secondOk : Framable second) (same : frame first ++ firstRest = frame second ++ secondRest) :
    first = second ∧ firstRest = secondRest := by
  simp only [frame, List.append_assoc] at same
  obtain ⟨lengths, bodies⟩ := List.append_inj same (by simp)
  exact List.append_inj bodies (bigEndian_inj firstOk secondOk lengths)

theorem optionalFrame_append_inj {first second : Option (List UInt8)}
    {firstRest secondRest : List UInt8} (firstOk : ∀ bytes ∈ first, Framable bytes)
    (secondOk : ∀ bytes ∈ second, Framable bytes)
    (same : optionalFrame first ++ firstRest = optionalFrame second ++ secondRest) :
    first = second ∧ firstRest = secondRest := by
  cases first with
  | none =>
    cases second with
    | none => exact ⟨rfl, List.append_cancel_left same⟩
    | some => simp [optionalFrame] at same
  | some firstBytes =>
    cases second with
    | none => simp [optionalFrame] at same
    | some secondBytes =>
      simp only [optionalFrame, List.cons_append, List.cons.injEq, true_and] at same
      obtain ⟨bytes, rest⟩ := frame_append_inj (firstOk _ rfl) (secondOk _ rfl) same
      exact ⟨by rw [bytes], rest⟩

theorem flatMap_inj {Item : Type} {Ok : Item → Prop} {encode : Item → List UInt8}
    (nonempty : ∀ item, encode item ≠ [])
    (delimited : ∀ {first second firstRest secondRest}, Ok first → Ok second →
      encode first ++ firstRest = encode second ++ secondRest →
        first = second ∧ firstRest = secondRest) :
    ∀ {first second : List Item}, (∀ item ∈ first, Ok item) → (∀ item ∈ second, Ok item) →
      first.flatMap encode = second.flatMap encode → first = second := by
  intro first
  induction first with
  | nil =>
    intro second _ _ same
    cases second with
    | nil => rfl
    | cons item => simp [nonempty item] at same
  | cons item rest ih =>
    intro second firstOk secondOk same
    cases second with
    | nil => simp [nonempty item] at same
    | cons other others =>
      simp only [List.flatMap_cons] at same
      obtain ⟨rfl, sameRest⟩ := delimited (firstOk _ List.mem_cons_self)
        (secondOk _ List.mem_cons_self) same
      rw [ih (fun found member => firstOk found (List.mem_cons_of_mem _ member))
        (fun found member => secondOk found (List.mem_cons_of_mem _ member)) sameRest]

theorem frame_ne_nil (bytes : List UInt8) : frame bytes ≠ [] := by
  simp [frame, bigEndian]

theorem toUtf8_injective : Function.Injective Utf8Text.toUtf8 := by
  intro first second same
  rw [← Utf8Text.fromUtf8Lossy_toUtf8 first, same, Utf8Text.fromUtf8Lossy_toUtf8]

end Framing
