import IRDiagnostics.Proofs.Text.Decimal
import IRDiagnostics.Ty.Printer

/-!
This module contains the unique reading of printed types: no two types have the same printed form.
A function type shows its return type first and without brackets, so the text of a type can always
go on as that of a function type that returns it. Reading is therefore unique up to the parameter
lists that follow, and unique altogether where none can follow.
-/

namespace IRDiagnostics

namespace Ty

/--
The function type that returns `ty` and has the given parameter lists, the innermost one first.
-/
def returnedBy (ty : Ty) : (layers : List (List Ty × Bool)) → Ty
  | [] => ty
  | (params, vararg) :: layers => (function ty params vararg).returnedBy layers

def layersChars : List (List Ty × Bool) → List Char
  | [] => []
  | (params, vararg) :: layers => " (".toList ++ paramsChars params vararg ++ layersChars layers

theorem returnedBy_append (ty : Ty) (inner outer : List (List Ty × Bool)) :
    ty.returnedBy (inner ++ outer) = (ty.returnedBy inner).returnedBy outer := by
  induction inner generalizing ty with
  | nil => rfl
  | cons layer inner ih => exact ih (function ty layer.1 layer.2)

theorem layersChars_append (inner outer : List (List Ty × Bool)) :
    layersChars (inner ++ outer) = layersChars inner ++ layersChars outer := by
  induction inner with
  | nil => rfl
  | cons layer inner ih => simp [layersChars, ih]

/--
Whether a text can stand behind a type that is read to its end: it goes on neither with a digit of a
bit width nor with a parameter list.
-/
def Stops : List Char → Prop
  | ' ' :: '(' :: _ => False
  | c :: _ => ¬ c.isDigit
  | [] => True

/--
Reading a type from a text is unique up to the parameter lists that the text goes on with.
-/
def ReadsUniquely (a : Ty) : Prop :=
  ∀ (b : Ty) (rest rest' : List Char),
    startsWithDigit rest = false → startsWithDigit rest' = false →
    a.chars ++ rest = b.chars ++ rest' →
      (∃ layers, b = a.returnedBy layers ∧ rest = layersChars layers ++ rest') ∨
      (∃ layers, a = b.returnedBy layers ∧ rest' = layersChars layers ++ rest)

theorem startsWithDigit_of_stops {rest : List Char} (h : Stops rest) :
    startsWithDigit rest = false := by
  unfold Stops at h
  split at h
  . exact h.elim
  . simpa [startsWithDigit] using h
  . rfl

theorem eq_nil_of_stops {layers : List (List Ty × Bool)} {rest rest' : List Char}
    (hrest : Stops rest) (h : rest = layersChars layers ++ rest') : layers = [] := by
  cases layers with
  | nil => rfl
  | cons layer layers =>
    rw [h] at hrest
    exact hrest.elim

theorem ReadsUniquely.eq_of_stops {a b : Ty} {rest rest' : List Char} (ha : a.ReadsUniquely)
    (hrest : Stops rest) (hrest' : Stops rest') (h : a.chars ++ rest = b.chars ++ rest') :
    a = b ∧ rest = rest' := by
  have := ha b rest rest' (startsWithDigit_of_stops hrest) (startsWithDigit_of_stops hrest') h
  obtain ⟨layers, hb, heq⟩ | ⟨layers, hb, heq⟩ := this
  . have := eq_nil_of_stops hrest heq
    subst this
    exact ⟨hb.symm, heq⟩
  . have := eq_nil_of_stops hrest' heq
    subst this
    exact ⟨hb, heq.symm⟩

def Closes : List Char → Prop
  | ')' :: _ => True
  | ' ' :: '\x7d' :: _ => True
  | ',' :: ' ' :: '.' :: _ => True
  | _ => False

def leads : List Char := ['v', 'i', 'h', 'f', 'd', 'p', 'l', '<', '[', '\x7b']

theorem chars_eq_cons : (ty : Ty) → ∃ lead ∈ leads, ∃ body, ty.chars = lead :: body
  | void => ⟨'v', by decide, _, rfl⟩
  | int bits => ⟨'i', by decide, _, rfl⟩
  | half => ⟨'h', by decide, _, rfl⟩
  | float => ⟨'f', by decide, _, rfl⟩
  | double => ⟨'d', by decide, _, rfl⟩
  | ptr => ⟨'p', by decide, _, rfl⟩
  | label => ⟨'l', by decide, _, rfl⟩
  | vector len element => ⟨'<', by decide, _, rfl⟩
  | array len element => ⟨'[', by decide, _, rfl⟩
  | struct fields false => ⟨'\x7b', by decide, _, rfl⟩
  | struct fields true => ⟨'<', by decide, _, rfl⟩
  | function ret params vararg => by
    obtain ⟨lead, hlead, body, hbody⟩ := chars_eq_cons ret
    refine ⟨lead, hlead, body ++ " (".toList ++ paramsChars params vararg, ?_⟩
    rw [chars, hbody]
    rfl

theorem chars_append_ne_cons (ty : Ty) {c : Char} (hc : c ∉ leads) (rest body : List Char) :
    ty.chars ++ rest ≠ c :: body := by
  obtain ⟨lead, hlead, tail, htail⟩ := chars_eq_cons ty
  rw [htail]
  intro h
  injection h with h
  subst h
  exact hc hlead

theorem stops_of_closes {rest : List Char} (h : Closes rest) : Stops rest := by
  unfold Closes at h
  split at h
  . simp [Stops]
  . simp [Stops]
  . simp [Stops]
  . exact h.elim

theorem stops_tailChars_append (tys : List Ty) {rest : List Char} (h : Closes rest) :
    Stops (tailChars tys ++ rest) := by
  cases tys with
  | nil => exact stops_of_closes h
  | cons ty tys => simp [tailChars, Stops]

theorem not_closes_item (ty : Ty) (rest : List Char) : ¬ Closes (", ".toList ++ ty.chars ++ rest) := by
  obtain ⟨lead, hlead, body, hbody⟩ := chars_eq_cons ty
  rw [hbody]
  intro h
  unfold Closes at h
  split at h
  . next heq => simp at heq
  . next heq => simp at heq
  . next heq =>
    have : lead = '.' := by simp_all
    rw [this] at hlead
    exact absurd hlead (by decide)
  . exact h

theorem tailChars_append_inj {tys tys' : List Ty} {rest rest' : List Char}
    (htys : ∀ ty ∈ tys, ty.ReadsUniquely) (hrest : Closes rest) (hrest' : Closes rest')
    (h : tailChars tys ++ rest = tailChars tys' ++ rest') : tys = tys' ∧ rest = rest' := by
  induction tys generalizing tys' with
  | nil =>
    cases tys' with
    | nil => exact ⟨rfl, h⟩
    | cons ty' tys' =>
      simp only [tailChars, List.nil_append, List.append_assoc] at h
      rw [h, ← List.append_assoc] at hrest
      exact absurd hrest (not_closes_item ty' _)
  | cons ty tys ih =>
    cases tys' with
    | nil =>
      simp only [tailChars, List.nil_append, List.append_assoc] at h
      rw [← h, ← List.append_assoc] at hrest'
      exact absurd hrest' (not_closes_item ty _)
    | cons ty' tys' =>
      simp only [tailChars, List.append_assoc, List.append_cancel_left_eq] at h
      have hty := htys ty (by simp)
      have := hty.eq_of_stops (stops_tailChars_append tys hrest)
        (stops_tailChars_append tys' hrest') h
      obtain ⟨rfl, htail⟩ := this
      have := ih (fun ty hmem => htys ty (by simp [hmem])) htail
      obtain ⟨rfl, heq⟩ := this
      exact ⟨rfl, heq⟩

theorem items_append_inj {ty ty' : Ty} {tys tys' : List Ty} {rest rest' : List Char}
    (htys : ∀ item ∈ ty :: tys, item.ReadsUniquely) (hrest : Closes rest) (hrest' : Closes rest')
    (h : ty.chars ++ (tailChars tys ++ rest) = ty'.chars ++ (tailChars tys' ++ rest')) :
    ty :: tys = ty' :: tys' ∧ rest = rest' := by
  apply tailChars_append_inj htys hrest hrest'
  simp [tailChars, h]

theorem fieldsChars_append_inj {fields fields' : List Ty} {rest rest' : List Char}
    (hfields : ∀ field ∈ fields, field.ReadsUniquely)
    (h : fieldsChars fields ++ rest = fieldsChars fields' ++ rest') :
    fields = fields' ∧ rest = rest' := by
  cases fields with
  | nil =>
    cases fields' with
    | nil => simpa [fieldsChars] using h
    | cons field' fields' => simp [fieldsChars] at h
  | cons field fields =>
    cases fields' with
    | nil => simp [fieldsChars] at h
    | cons field' fields' =>
      simp only [fieldsChars, List.cons_append, List.append_assoc, List.cons.injEq,
        true_and] at h
      have := items_append_inj hfields (by simp [Closes]) (by simp [Closes]) h
      simpa using this

def closing : (vararg : Bool) → List Char
  | false => [')']
  | true => [',', ' ', '.', '.', '.', ')']

theorem closes_closing_append (vararg : Bool) (rest : List Char) :
    Closes (closing vararg ++ rest) := by
  cases vararg <;> simp [closing, Closes]

theorem paramsChars_cons (param : Ty) (params : List Ty) (vararg : Bool) :
    paramsChars (param :: params) vararg =
      param.chars ++ (tailChars params ++ closing vararg) := by
  cases vararg <;> simp [paramsChars, closing]

theorem paramsChars_nil_append_ne (vararg vararg' : Bool) (param : Ty) (params : List Ty)
    (rest rest' : List Char) :
    paramsChars (param :: params) vararg ++ rest ≠ paramsChars [] vararg' ++ rest' := by
  rw [paramsChars_cons, List.append_assoc]
  cases vararg'
  . apply chars_append_ne_cons
    decide
  . apply chars_append_ne_cons
    decide

theorem paramsChars_append_inj {params params' : List Ty} {vararg vararg' : Bool}
    {rest rest' : List Char} (hparams : ∀ param ∈ params, param.ReadsUniquely)
    (h : paramsChars params vararg ++ rest = paramsChars params' vararg' ++ rest') :
    params = params' ∧ vararg = vararg' ∧ rest = rest' := by
  cases params with
  | nil =>
    cases params' with
    | nil => cases vararg <;> cases vararg' <;> simp_all [paramsChars]
    | cons param' params' => exact absurd h.symm (paramsChars_nil_append_ne _ _ _ _ _ _)
  | cons param params =>
    cases params' with
    | nil => exact absurd h (paramsChars_nil_append_ne _ _ _ _ _ _)
    | cons param' params' =>
      rw [paramsChars_cons, paramsChars_cons] at h
      simp only [List.append_assoc] at h
      have := items_append_inj hparams (closes_closing_append _ _) (closes_closing_append _ _) h
      obtain ⟨heq, hclosing⟩ := this
      cases vararg <;> cases vararg' <;> simp_all [closing]

theorem ReadsUniquely.function {ret : Ty} {params : List Ty} (vararg : Bool)
    (hret : ret.ReadsUniquely) (hparams : ∀ param ∈ params, param.ReadsUniquely) :
    (function ret params vararg).ReadsUniquely := by
  intro b rest rest' hrest hrest' h
  rw [chars, List.append_assoc, List.append_assoc] at h
  obtain ⟨layers, rfl, heq⟩ | ⟨layers, rfl, heq⟩ := hret b _ rest' (by rfl) hrest' h
  . cases layers with
    | nil =>
      -- `b` is what the function returns.
      right
      refine ⟨[(params, vararg)], rfl, ?_⟩
      simpa [layersChars] using heq.symm
    | cons layer layers =>
      left
      obtain ⟨params', vararg'⟩ := layer
      simp only [layersChars, List.append_assoc, List.append_cancel_left_eq] at heq
      obtain ⟨rfl, rfl, hrest⟩ := paramsChars_append_inj hparams heq
      exact ⟨layers, rfl, hrest⟩
  . right
    refine ⟨layers ++ [(params, vararg)], ?_, ?_⟩
    . rw [returnedBy_append]
      rfl
    . rw [layersChars_append]
      simpa [layersChars] using heq

def isFunction : Ty → Bool
  | function _ _ _ => true
  | _ => false

/--
Whether a type is told from all types that are no function types by the text it is read from.
-/
def ToldApart (a : Ty) : Prop :=
  ∀ (b : Ty) (rest rest' : List Char), b.isFunction = false →
    startsWithDigit rest = false → startsWithDigit rest' = false →
    a.chars ++ rest = b.chars ++ rest' → a = b ∧ rest = rest'

theorem exists_layers_of_toldApart {a : Ty} (ha : a.isFunction = false) (htold : a.ToldApart)
    (b : Ty) {rest rest' : List Char} (hrest : startsWithDigit rest = false)
    (hrest' : startsWithDigit rest' = false) (h : a.chars ++ rest = b.chars ++ rest') :
    ∃ layers, b = a.returnedBy layers ∧ rest = layersChars layers ++ rest' := by
  cases hb : b.isFunction with
  | false =>
    obtain ⟨rfl, heq⟩ := htold b rest rest' hb hrest hrest' h
    exact ⟨[], rfl, heq⟩
  | true =>
    match b with
    | function ret params vararg =>
      rw [chars, List.append_assoc, List.append_assoc] at h
      obtain ⟨layers, rfl, heq⟩ := exists_layers_of_toldApart ha htold ret hrest (by rfl) h
      refine ⟨layers ++ [(params, vararg)], ?_, ?_⟩
      . rw [returnedBy_append]
        rfl
      . rw [layersChars_append]
        simpa [layersChars] using heq

theorem toldApart_keyword {a : Ty}
    (ha : a = void ∨ a = half ∨ a = float ∨ a = double ∨ a = ptr ∨ a = label) : a.ToldApart := by
  intro b rest rest' hb hrest hrest' h
  rcases ha with rfl | rfl | rfl | rfl | rfl | rfl
  all_goals
    cases b with
    | function => simp [isFunction] at hb
    | struct fields packed => cases packed <;> simp [chars] at h
    | _ => simp_all [chars]

theorem toldApart_int (bits : UInt32) : (int bits).ToldApart := by
  intro b rest rest' hb hrest hrest' h
  cases b with
  | function => simp [isFunction] at hb
  | struct fields packed => cases packed <;> simp [chars] at h
  | int bits' =>
    simp only [chars, List.cons_append, List.cons.injEq, true_and] at h
    obtain ⟨hbits, heq⟩ := toDigits_append_inj hrest hrest' h
    rw [UInt32.toNat_inj.mp hbits]
    exact ⟨rfl, heq⟩
  | _ => simp [chars] at h

theorem repeated_append_inj {m n : Nat} {a b : Ty} {close : Char} {rest rest' : List Char}
    (ha : a.ReadsUniquely) (hclose : ∀ rest, Stops (close :: rest))
    (h : Nat.toDigits 10 m ++ (" x ".toList ++ (a.chars ++ close :: rest)) =
      Nat.toDigits 10 n ++ (" x ".toList ++ (b.chars ++ close :: rest'))) :
    m = n ∧ a = b ∧ rest = rest' := by
  obtain ⟨hlen, h⟩ := toDigits_append_inj (by rfl) (by rfl) h
  rw [List.append_cancel_left_eq] at h
  obtain ⟨helement, h⟩ := ha.eq_of_stops (hclose rest) (hclose rest') h
  injection h with _ h
  exact ⟨hlen, helement, h⟩

theorem packed_append_ne_vector (fields : List Ty) (len : UInt32) (element : Ty)
    (rest rest' : List Char) :
    (struct fields true).chars ++ rest ≠ (vector len element).chars ++ rest' := by
  intro h
  -- The opening bracket is the same, but a number follows that of the vector.
  simp only [chars, List.cons_append, List.append_assoc, List.cons.injEq, true_and] at h
  have hdigit := startsWithDigit_toDigits_append len.toNat
    (" x ".toList ++ (element.chars ++ ('>' :: ([] ++ rest'))))
  rw [← h] at hdigit
  exact absurd hdigit (by simp [startsWithDigit])

theorem toldApart_vector (len : UInt32) {element : Ty} (helement : element.ReadsUniquely) :
    (vector len element).ToldApart := by
  intro b rest rest' hb hrest hrest' h
  cases b with
  | function => simp [isFunction] at hb
  | struct fields packed =>
    cases packed with
    | false => simp [chars] at h
    | true => exact absurd h.symm (packed_append_ne_vector fields len element rest' rest)
  | vector len' element' =>
    simp only [chars, List.cons_append, List.append_assoc, List.cons.injEq, true_and,
      List.nil_append] at h
    obtain ⟨hlen, rfl, heq⟩ := repeated_append_inj helement (by simp [Stops]) h
    rw [UInt32.toNat_inj.mp hlen]
    exact ⟨rfl, heq⟩
  | _ => simp [chars] at h

theorem toldApart_array (len : UInt64) {element : Ty} (helement : element.ReadsUniquely) :
    (array len element).ToldApart := by
  intro b rest rest' hb hrest hrest' h
  cases b with
  | function => simp [isFunction] at hb
  | struct fields packed => cases packed <;> simp [chars] at h
  | array len' element' =>
    simp only [chars, List.cons_append, List.append_assoc, List.cons.injEq, true_and,
      List.nil_append] at h
    obtain ⟨hlen, rfl, heq⟩ := repeated_append_inj helement (by simp [Stops]) h
    rw [UInt64.toNat_inj.mp hlen]
    exact ⟨rfl, heq⟩
  | _ => simp [chars] at h

theorem toldApart_struct {fields : List Ty} (packed : Bool)
    (hfields : ∀ field ∈ fields, field.ReadsUniquely) : (struct fields packed).ToldApart := by
  intro b rest rest' hb hrest hrest' h
  cases b with
  | function => simp [isFunction] at hb
  | struct fields' packed' =>
    cases packed with
    | false =>
      cases packed' with
      | false =>
        simp only [chars, List.cons_append, List.cons.injEq, true_and] at h
        obtain ⟨rfl, heq⟩ := fieldsChars_append_inj hfields h
        exact ⟨rfl, heq⟩
      | true => simp [chars] at h
    | true =>
      cases packed' with
      | false => simp [chars] at h
      | true =>
        simp only [chars, List.cons_append, List.append_assoc, List.cons.injEq,
          true_and, List.nil_append] at h
        obtain ⟨rfl, heq⟩ := fieldsChars_append_inj hfields h
        injection heq with _ heq
        exact ⟨rfl, heq⟩
  | vector len element =>
    cases packed with
    | false => simp [chars] at h
    | true => exact absurd h (packed_append_ne_vector fields len element rest rest')
  | _ => cases packed <;> simp [chars] at h

theorem readsUniquely_of_toldApart {a : Ty} (ha : a.isFunction = false) (htold : a.ToldApart) :
    a.ReadsUniquely := by
  intro b rest rest' hrest hrest' h
  left
  exact exists_layers_of_toldApart ha htold b hrest hrest' h

theorem readsUniquely : (ty : Ty) → ty.ReadsUniquely
  | void => readsUniquely_of_toldApart rfl (toldApart_keyword (by simp))
  | int bits => readsUniquely_of_toldApart rfl (toldApart_int bits)
  | half => readsUniquely_of_toldApart rfl (toldApart_keyword (by simp))
  | float => readsUniquely_of_toldApart rfl (toldApart_keyword (by simp))
  | double => readsUniquely_of_toldApart rfl (toldApart_keyword (by simp))
  | ptr => readsUniquely_of_toldApart rfl (toldApart_keyword (by simp))
  | label => readsUniquely_of_toldApart rfl (toldApart_keyword (by simp))
  | vector len element =>
    readsUniquely_of_toldApart rfl (toldApart_vector len (readsUniquely element))
  | array len element =>
    readsUniquely_of_toldApart rfl (toldApart_array len (readsUniquely element))
  | struct fields packed =>
    readsUniquely_of_toldApart rfl
      (toldApart_struct packed fun field _ => readsUniquely field)
  | function ret params vararg =>
    (readsUniquely ret).function vararg fun param _ => readsUniquely param
termination_by ty => sizeOf ty
decreasing_by
  . simp only [vector.sizeOf_spec]
    omega
  . simp only [array.sizeOf_spec]
    omega
  . next hfield =>
    have := List.sizeOf_lt_of_mem hfield
    simp only [struct.sizeOf_spec]
    omega
  . simp only [function.sizeOf_spec]
    omega
  . next hparam =>
    have := List.sizeOf_lt_of_mem hparam
    simp only [function.sizeOf_spec]
    omega

theorem chars_inj {a b : Ty} (h : a.chars = b.chars) : a = b := by
  have hstops : Stops [] := trivial
  have := (readsUniquely a).eq_of_stops (b := b) hstops hstops (by rw [h])
  exact this.1

/--
The printed form of a type identifies it, and so does that of a signature.
-/
theorem text_eq_iff (a b : Ty) (f g : Signature) :
    (a.text = b.text ↔ a = b) ∧ (f.text = g.text ↔ f = g) := by
  have htext : ∀ a b : Ty, a.text = b.text ↔ a = b := by
    intro a b
    constructor
    . intro h
      apply chars_inj
      exact String.ofList_inj.mp h
    . intro h
      rw [h]
  refine ⟨htext a b, ?_⟩
  unfold Signature.text
  rw [htext]
  cases f
  cases g
  simp [Signature.toTy]

end Ty

end IRDiagnostics
