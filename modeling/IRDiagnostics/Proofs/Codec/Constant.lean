import IRDiagnostics.Codec.Module
import IRDiagnostics.Proofs.Codec.Module
import IRDiagnostics.Proofs.Json.Decimal

/-!
This module contains what becomes of constants in JSON. Only floating-point numbers may change:
there is no literal for those that are not finite, and the literals of the others may be read as
other numbers nearby.
-/

namespace IRDiagnostics

namespace Constant

theorem ofJson?_int_eq_some {payload bits value : Json} {n : UInt32} {m : Int64}
    (hfields : payload.fields? ["bits", "value"] = some [some bits, some value])
    (hbits : bits.toUInt32? = some n) (hvalue : value.toInt64? = some m) :
    ofJson? (.ofMembers [("Int", payload)]) = some (.int n m) := by
  have hpayload : (Json.ofMembers [("Int", payload)]).alternative? = some ("Int", some payload) :=
    rfl
  unfold ofJson?
  simp only [hpayload, hfields, Option.bind_eq_bind, Option.bind_some, Option.pure_def, hbits,
    hvalue]

theorem ofJson?_toJson {constant : Constant} (h : ∀ x, constant ≠ .float x) :
    ofJson? constant.toJson = some constant := by
  cases constant with
  | int bits value =>
    have hfields : (Json.ofMembers
        [("bits", .ofNat bits.toNat), ("value", .ofInt value.toInt)]).fields? ["bits", "value"] =
          some [some (.ofNat bits.toNat), some (.ofInt value.toInt)] :=
      Json.fields?_ofMembers (by simp)
    exact ofJson?_int_eq_some hfields (Json.toUInt32?_ofNat bits) (Json.toInt64?_ofInt value)
  | float x => exact absurd rfl (h x)
  | null => rfl
  | undef => rfl
  | poison => rfl
  | zeroInitializer => rfl

theorem toJson_float_of_infinite {x : Binary64} (h : x.biasedExponent = 2047) :
    toJson (.float x) = .ofMembers [("Float", .null)] := by
  have hnone : Json.Number.ofBinary64? x = none := by
    unfold Json.Number.ofBinary64? Binary64.datum
    rw [if_pos h]
    split
    . next hdatum =>
      split at hdatum
      all_goals contradiction
    . rfl
  unfold toJson Json.ofBinary64
  dsimp only
  rw [hnone]

theorem toJson_float_of_literal {x : Binary64} {literal : Json.Number}
    (h : Json.Number.ofBinary64? x = some literal) :
    toJson (.float x) = .ofMembers [("Float", .number literal)] := by
  unfold toJson Json.ofBinary64
  dsimp only
  rw [h]

theorem ofJson?_float (payload : Json) :
    ofJson? (.ofMembers [("Float", payload)]) = payload.toBinary64?.map .float := rfl

/--
Reading a constant back from its text gives the constant again unless it is a floating-point
number. A number that is not finite is written as `null` and cannot be read; a finite one is written
with the fewest digits that identify it and read as a number near it, or as itself if the digits of
its literal are exact.
-/
theorem constants_read_back :
    (∀ constant : Constant, (∀ x, constant ≠ .float x) →
        (Json.read? constant.toJson.compact).bind ofJson? = some constant) ∧
      (∀ x : Binary64, x.biasedExponent = 2047 →
        toJson (.float x) = .ofMembers [("Float", .null)] ∧
          (Json.read? (toJson (.float x)).compact).bind ofJson? = none) ∧
      ∀ x : Binary64, x.biasedExponent ≠ 2047 →
        ∃ literal y,
          toJson (.float x) = .ofMembers [("Float", .number literal)] ∧ literal.IsShortest x ∧
          (Json.read? (toJson (.float x)).compact).bind ofJson? = some (.float y) ∧
          literal.IsReading x y := by
  simp only [read_compact]
  refine ⟨?_, ?_, ?_⟩
  . intro constant hconstant
    exact ofJson?_toJson hconstant
  . intro x hx
    have hjson := toJson_float_of_infinite hx
    refine ⟨hjson, ?_⟩
    rw [hjson]
    rfl
  . intro x hx
    obtain ⟨literal, y, hliteral, hread, hreading⟩ := Json.Number.exists_reading hx
    have hjson := toJson_float_of_literal hliteral
    refine ⟨literal, y, hjson, Json.Number.isShortest_of_ofBinary64? hx hliteral, ?_, hreading⟩
    rw [hjson, ofJson?_float]
    change literal.toBinary64?.map Constant.float = _
    rw [hread]
    rfl

/--
One digit is enough for one tenth, and exact, so it is read back as itself.
-/
theorem constants_read_back_tenth :
    let tenth : Binary64 := ⟨0x3FB999999999999A⟩
    tenth.biasedExponent ≠ 2047 ∧
      Json.Number.IsShortest { whole := 0, fraction := [1] } tenth ∧
      (Json.read? (toJson (.float tenth)).compact).bind ofJson? = some (.float tenth) := by
  intro tenth
  have hfinite : tenth.biasedExponent ≠ 2047 := by decide +kernel
  obtain ⟨literal, y, hjson, hshortest, hread, hreading⟩ :=
    constants_read_back.2.2 tenth hfinite
  have htenth : Json.Number.ofBinary64? tenth = some { whole := 0, fraction := [1] } := by
    decide +kernel
  obtain rfl : { whole := 0, fraction := [1] } = literal := by
    rw [toJson_float_of_literal htenth] at hjson
    simpa [Json.ofMembers] using hjson
  have hsignificand : Json.Number.significand { whole := 0, fraction := [1] } = (1, -1) :=
    Json.Number.significand_of_digit false (by decide)
  refine ⟨hfinite, hshortest, ?_⟩
  rw [hread, hreading.eq_of_exact (by rw [hsignificand]; decide) (by rw [hsignificand]; decide)]

/--
An infinite number is not read at all, and the greatest odd number is read as the even one below it:
with the digit after its point it does not fit a significand.
-/
theorem float_not_read_back :
    (Json.read? (toJson (.float .infinity)).compact).bind ofJson? = none ∧
      let odd : Binary64 := ⟨0x433FFFFFFFFFFFFF⟩
      let even : Binary64 := ⟨0x433FFFFFFFFFFFFE⟩
      (Json.read? (toJson (.float odd)).compact).bind ofJson? = some (.float even) ∧
        numericEq (.float odd) (.float even) = false := by
  simp only [read_compact]
  refine ⟨?_, ?_, by decide +kernel⟩
  . rw [toJson_float_of_infinite rfl]
    rfl
  . have hodd : Json.Number.ofBinary64? ⟨0x433FFFFFFFFFFFFF⟩ =
        some { whole := 9007199254740991, fraction := [0] } := by
      decide +kernel
    have hsignificand : Json.Number.significand { whole := 9007199254740991, fraction := [0] } =
        (90071992547409910, -1) :=
      Json.Number.significand_of_digit false (by decide)
    have hscale : Json.Number.scale (.ofRatio 90071992547409910 1) (-1) =
        some ⟨0x433FFFFFFFFFFFFE⟩ := by
      apply (Json.Number.scale_of_neg Nat.one_pos (by norm_num)).trans
      decide +kernel
    have hread := Json.Number.toBinary64?_eq_some (by rw [hsignificand]; exact hscale)
    rw [toJson_float_of_literal hodd, ofJson?_float]
    exact congrArg (Option.map Constant.float) hread

end Constant

end IRDiagnostics
