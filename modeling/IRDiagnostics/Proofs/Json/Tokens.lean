import IRDiagnostics.Proofs.Json.Literal

/-!
This module contains the tokens of the compact text of a value, and that they are what is read from
it.
-/

namespace IRDiagnostics

namespace Json

def Token.chars : Token → List Char
  | .openBracket => ['[']
  | .closeBracket => [']']
  | .openBrace => ['\x7b']
  | .closeBrace => ['\x7d']
  | .comma => [',']
  | .colon => [':']
  | .scalar value => value.chars

mutual

def tokens : Json → List Token
  | .array [] => [.openBracket, .closeBracket]
  | .array (item :: items) => .openBracket :: item.tokens ++ itemsTokens items
  | .object [] => [.openBrace, .closeBrace]
  | .object ((key, value) :: members) =>
    .openBrace :: .scalar (.string key) :: .colon :: value.tokens ++ membersTokens members
  | scalar => [.scalar scalar]

def itemsTokens : List Json → List Token
  | [] => [.closeBracket]
  | item :: items => .comma :: item.tokens ++ itemsTokens items

def membersTokens : List (Text × Json) → List Token
  | [] => [.closeBrace]
  | (key, value) :: members =>
    .comma :: .scalar (.string key) :: .colon :: value.tokens ++ membersTokens members

end

theorem Token.chars_ne_nil (token : Token) : token.chars ≠ [] := by
  cases token with
  | scalar value =>
    unfold Token.chars
    cases value with
    | bool value => cases value <;> simp [Json.chars]
    | number number => simp [Json.chars, Number.chars]
    | string text => cases text <;> simp [Json.chars, Text.chars]
    | array items => cases items <;> simp [Json.chars]
    | object members => cases members <;> simp [Json.chars]
    | null => simp [Json.chars]
  | _ => simp [Token.chars]

theorem length_le_length_flatMap_chars (tokens : List Token) :
    tokens.length ≤ (tokens.flatMap Token.chars).length := by
  induction tokens with
  | nil => simp
  | cons token tokens ih =>
    have := List.length_pos_iff.mpr token.chars_ne_nil
    rw [List.flatMap_cons, List.length_append, List.length_cons]
    omega

mutual

theorem chars_eq_flatMap : (json : Json) → json.chars = json.tokens.flatMap Token.chars
  | .null => by simp [Json.chars, tokens, Token.chars]
  | .bool value => by simp [tokens, Token.chars]
  | .number literal => by simp [tokens, Token.chars]
  | .string text => by simp [tokens, Token.chars]
  | .array [] => by simp [Json.chars, tokens, Token.chars]
  | .array (item :: items) => by
    simp [Json.chars, tokens, Token.chars, chars_eq_flatMap item, itemsChars_eq_flatMap items]
  | .object [] => by simp [Json.chars, tokens, Token.chars]
  | .object ((key, value) :: members) => by
    simp [Json.chars, tokens, Token.chars, chars_eq_flatMap value, membersChars_eq_flatMap members]

theorem itemsChars_eq_flatMap :
    (items : List Json) → itemsChars items = (itemsTokens items).flatMap Token.chars
  | [] => by simp [itemsChars, itemsTokens, Token.chars]
  | item :: items => by
    simp [itemsChars, itemsTokens, Token.chars, chars_eq_flatMap item, itemsChars_eq_flatMap items]

theorem membersChars_eq_flatMap :
    (members : List (Text × Json)) →
      membersChars members = (membersTokens members).flatMap Token.chars
  | [] => by simp [membersChars, membersTokens, Token.chars]
  | (key, value) :: members => by
    simp [Json.chars, membersChars, membersTokens, Token.chars, chars_eq_flatMap value,
      membersChars_eq_flatMap members]

end

theorem tokenReader_number (number : Number) {rest : List Char} (h : endsNumber rest = true) :
    tokenReader (number.chars ++ rest) = some (.scalar (.number number), rest) := by
  have hread := numberReader_append number h
  obtain ⟨c, chars, hchars, hc⟩ := numberChars_append_eq_cons number rest
  rw [hchars] at hread ⊢
  have hne : ∀ d : Char, d ≠ '-' → d.isDigit = false → d ≠ c ∧ c ≠ d := by
    intro d hminus hdigit
    -- None of the characters that tokens of other kinds start with is one that numbers start with.
    rw [ne_comm, and_self]
    rintro rfl
    simp_all
  have hblank : isBlank c = false := by
    simp [isBlank, hne]
  simp [tokenReader, hblank, hread, hne]

theorem tokenReader_text (text : Text) (rest : List Char) :
    tokenReader (text.chars ++ rest) = some (.scalar (.string text), rest) := by
  have hread := textReader_append text rest
  have hquote : ∃ chars, text.chars = '"' :: chars := by
    cases text with
    | none => exact ⟨_, rfl⟩
    | some text => exact ⟨_, rfl⟩
  obtain ⟨chars, hchars⟩ := hquote
  rw [hchars, List.cons_append] at hread ⊢
  have hnumber : numberReader ('"' :: (chars ++ rest)) = none := by
    simp [numberReader, wholeReader, Reader.optional_apply, Reader.takeWhile1]
  simp [tokenReader, isBlank, hnumber, hread]

theorem tokenReader_punctuation {token : Token} (h : ∀ value, token ≠ .scalar value)
    (rest : List Char) : tokenReader (token.chars ++ rest) = some (token, rest) := by
  cases token with
  | scalar value => exact absurd rfl (h value)
  | _ => simp [Token.chars, tokenReader, isBlank]

/--
Whether each token is read back in front of the text of the tokens behind it.
-/
def ReadBack : List Token → Prop
  | [] => True
  | token :: tokens =>
    tokenReader (token.chars ++ tokens.flatMap Token.chars) =
      some (token, tokens.flatMap Token.chars) ∧ ReadBack tokens

theorem ReadBack.punctuation {token : Token} {tokens : List Token} (htokens : ReadBack tokens)
    (h : ∀ value, token ≠ .scalar value) : ReadBack (token :: tokens) :=
  ⟨tokenReader_punctuation h _, htokens⟩

theorem ReadBack.text {text : Text} {tokens : List Token} (htokens : ReadBack tokens) :
    ReadBack (.scalar (.string text) :: tokens) := by
  refine ⟨?_, htokens⟩
  simp only [Token.chars, Json.chars]
  exact tokenReader_text text _

theorem endsNumber_itemsTokens (items : List Json) (rest : List Token) :
    endsNumber ((itemsTokens items ++ rest).flatMap Token.chars) = true := by
  cases items <;> rfl

theorem endsNumber_membersTokens (members : List (Text × Json)) (rest : List Token) :
    endsNumber ((membersTokens members ++ rest).flatMap Token.chars) = true := by
  cases members <;> rfl

mutual

theorem readBack_tokens : (json : Json) → {rest : List Token} →
    endsNumber (rest.flatMap Token.chars) = true → ReadBack rest → ReadBack (json.tokens ++ rest)
  | .null, rest, _, hrest => by
    refine ⟨?_, hrest⟩
    simp [Json.chars, Token.chars, tokenReader, isBlank]
  | .bool value, rest, _, hrest => by
    refine ⟨?_, hrest⟩
    cases value <;> simp [Json.chars, Token.chars, tokenReader, isBlank]
  | .number literal, rest, hends, hrest => by
    refine ⟨?_, hrest⟩
    simp only [Token.chars, Json.chars]
    exact tokenReader_number literal hends
  | .string text, rest, _, hrest => hrest.text
  | .array [], rest, _, hrest => by
    simp only [tokens, List.cons_append, List.nil_append]
    exact .punctuation (.punctuation hrest nofun) nofun
  | .array (item :: items), rest, _, hrest => by
    -- Whatever comes behind the item, it starts with a comma or a bracket.
    have hitems := readBack_itemsTokens items hrest
    have hitem := readBack_tokens item (endsNumber_itemsTokens items rest) hitems
    simp only [tokens, List.cons_append, List.append_assoc]
    exact hitem.punctuation nofun
  | .object [], rest, _, hrest => by
    simp only [tokens, List.cons_append, List.nil_append]
    exact .punctuation (.punctuation hrest nofun) nofun
  | .object ((key, value) :: members), rest, _, hrest => by
    have hmembers := readBack_membersTokens members hrest
    have hvalue := readBack_tokens value (endsNumber_membersTokens members rest) hmembers
    simp only [tokens, List.cons_append, List.append_assoc]
    exact .punctuation (.text (.punctuation hvalue nofun)) nofun

theorem readBack_itemsTokens : (items : List Json) → {rest : List Token} →
    ReadBack rest → ReadBack (itemsTokens items ++ rest)
  | [], rest, hrest => by
    change ReadBack (.closeBracket :: rest)
    exact hrest.punctuation nofun
  | item :: items, rest, hrest => by
    have hitems := readBack_itemsTokens items hrest
    have hitem := readBack_tokens item (endsNumber_itemsTokens items rest) hitems
    simp only [itemsTokens, List.cons_append, List.append_assoc]
    exact hitem.punctuation nofun

theorem readBack_membersTokens : (members : List (Text × Json)) → {rest : List Token} →
    ReadBack rest → ReadBack (membersTokens members ++ rest)
  | [], rest, hrest => by
    change ReadBack (.closeBrace :: rest)
    exact hrest.punctuation nofun
  | (key, value) :: members, rest, hrest => by
    have hmembers := readBack_membersTokens members hrest
    have hvalue := readBack_tokens value (endsNumber_membersTokens members rest) hmembers
    simp only [membersTokens, List.cons_append, List.append_assoc]
    exact .punctuation (.text (.punctuation hvalue nofun)) nofun

end

theorem manyWithin_tokenReader {tokens : List Token} (h : ReadBack tokens) {bound : List Char}
    (hbound : tokens.length ≤ bound.length) :
    Reader.manyWithin tokenReader bound (tokens.flatMap Token.chars) = (tokens, []) := by
  induction tokens generalizing bound with
  | nil =>
    have hend : tokenReader [] = none := by rfl
    cases bound with
    | nil => rfl
    | cons c bound =>
      rw [List.flatMap_nil, Reader.manyWithin, hend]
  | cons token tokens ih =>
    cases bound with
    | nil => simp at hbound
    | cons c bound =>
      obtain ⟨htoken, htokens⟩ := h
      rw [List.length_cons, List.length_cons] at hbound
      rw [List.flatMap_cons, Reader.manyWithin, htoken]
      dsimp only
      rw [ih htokens (by omega)]

theorem tokens?_chars (json : Json) : tokens? json.chars = some json.tokens := by
  have hends : endsNumber (([] : List Token).flatMap Token.chars) = true := by rfl
  have hread := readBack_tokens json hends trivial
  rw [List.append_nil] at hread
  have hmany := manyWithin_tokenReader hread (length_le_length_flatMap_chars json.tokens)
  rw [← chars_eq_flatMap] at hmany
  simp [tokens?, Reader.all, Reader.many, hmany]

end Json

end IRDiagnostics
