import IRDiagnostics.Json.Reader
import IRDiagnostics.Proofs.Json.Tokens

/-!
This module contains the round trip of JSON values through their compact text.
-/

namespace IRDiagnostics

namespace Json

theorem State.run_cons (state : State) (token : Token) (tokens : List Token) :
    state.run (token :: tokens) = (state.next token).bind (·.run tokens) := rfl

theorem run_firstItem_tokens (json : Json) (outer : List Frame) (rest : List Token) :
    (State.firstItem outer).run (json.tokens ++ rest) =
      (State.awaitValue (.array [] :: outer)).run (json.tokens ++ rest) := by
  -- No value starts with the token that would end the array.
  cases json with
  | array items => cases items <;> rfl
  | object members => cases members <;> rfl
  | _ => rfl

mutual

theorem run_tokens : (json : Json) → (outer : List Frame) → (rest : List Token) →
    (State.awaitValue outer).run (json.tokens ++ rest) = (State.complete json outer).run rest
  | .null, outer, rest => by rfl
  | .bool value, outer, rest => by rfl
  | .number literal, outer, rest => by rfl
  | .string text, outer, rest => by rfl
  | .array [], outer, rest => by rfl
  | .array (item :: items), outer, rest => by
    simp only [tokens, List.cons_append, List.append_assoc]
    rw [State.run_cons]
    change (State.firstItem outer).run _ = _
    rw [run_firstItem_tokens, run_tokens item]
    -- The machine now holds the first item and expects the rest of the array.
    exact run_itemsTokens items [item] outer rest
  | .object [], outer, rest => by rfl
  | .object ((key, value) :: members), outer, rest => by
    simp only [tokens, List.cons_append, List.append_assoc]
    change (State.awaitValue (.object [] key :: outer)).run _ = _
    rw [run_tokens value]
    exact run_membersTokens members [(key, value)] outer rest

theorem run_itemsTokens : (items before : List Json) → (outer : List Frame) →
    (rest : List Token) →
    (State.afterItem before outer).run (itemsTokens items ++ rest) =
      (State.complete (.array (before.reverse ++ items)) outer).run rest
  | [], before, outer, rest => by
    rw [List.append_nil]
    rfl
  | item :: items, before, outer, rest => by
    simp only [itemsTokens, List.cons_append, List.append_assoc]
    change (State.awaitValue (.array before :: outer)).run _ = _
    rw [run_tokens item]
    change (State.afterItem (item :: before) outer).run _ = _
    rw [run_itemsTokens items, List.reverse_cons, List.append_assoc]
    rfl

theorem run_membersTokens : (members before : List (Text × Json)) → (outer : List Frame) →
    (rest : List Token) →
    (State.afterMember before outer).run (membersTokens members ++ rest) =
      (State.complete (.object (before.reverse ++ members)) outer).run rest
  | [], before, outer, rest => by
    rw [List.append_nil]
    rfl
  | (key, value) :: members, before, outer, rest => by
    simp only [membersTokens, List.cons_append, List.append_assoc]
    change (State.awaitValue (.object before key :: outer)).run _ = _
    rw [run_tokens value]
    change (State.afterMember ((key, value) :: before) outer).run _ = _
    rw [run_membersTokens members, List.reverse_cons, List.append_assoc]
    rfl

end

/--
Every value is read back from its compact text.
-/
theorem read?_compact (json : Json) : read? json.compact = some json := by
  have hrun := run_tokens json [] []
  rw [List.append_nil] at hrun
  unfold read? compact
  rw [String.toList_ofList, tokens?_chars]
  simp only [Option.bind_eq_bind, Option.bind_some]
  rw [hrun]
  rfl

end Json

end IRDiagnostics
