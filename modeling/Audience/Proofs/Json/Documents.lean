import Audience.Json.Printer
import Audience.Json.Reader
import Audience.Proofs.Decimal.Numeral

/-!
# Documents that read back

A document that is printed without white space is read back as it was, provided that its
numerals are spelled as the reader wants them.

**Fuel.**  Two units for each printed character are enough: a value costs one unit more
than its items or members, and its brackets pay for that.

**Results.**
* `readQuoted_escapeAll`: a quoted text is read back.
* `readValue_compact`: a printed document is taken back from the front of a text.
* `parse?_text_of_spelled`: the text of a spelled document is that document.
-/

namespace Audience
namespace Json

open Text

/-- What stands behind a value: nothing, a comma or a closing bracket. -/
def Closes : List Char → Prop
  | [] => True
  | c :: _ => c = ',' ∨ c = ']' ∨ c = '}'

@[simp] theorem closes_nil : Closes [] := trivial

@[simp] theorem closes_comma (rest : List Char) : Closes (',' :: rest) :=
  Or.inl rfl

@[simp] theorem closes_bracket (rest : List Char) : Closes (']' :: rest) :=
  Or.inr (Or.inl rfl)

@[simp] theorem closes_brace (rest : List Char) : Closes ('}' :: rest) :=
  Or.inr (Or.inr rfl)

theorem Closes.ends
    {rest : List Char} (h : Closes rest) :
    Numeral.Ends rest := by
  cases rest with
  | nil =>
      trivial
  | cons c rest =>
      rcases h with rfl | rfl | rfl <;>
        exact ⟨by decide, by decide, by decide, by decide⟩

section Strings

theorem readPieces_char
    {c : Char} (rest : List Char)
    (hquote : c ≠ '"') (hbackslash : c ≠ '\\')
    (hcontrol : 0x20 ≤ c.toNat) :
    readPieces (c :: rest) =
      (readPieces rest).map fun r => (.char c :: r.1, r.2) := by
  have hlow : ¬ c.toNat < 0x20 := by omega
  rw [readPieces.eq_def]
  split
  · simp_all
  · simp_all
  · simp_all
  · simp_all
  · next c' rest' _ _ heq =>
      simp only [List.cons.injEq] at heq
      obtain ⟨rfl, rfl⟩ := heq
      rw [if_neg (by simp [hbackslash, hlow])]
      cases readPieces rest <;> rfl

/-- An escape of one character is read as that character. -/
theorem readPieces_shortEscape
    {e c : Char} (rest : List Char)
    (hu : e ≠ 'u') (he : shortEscape? e = some c) :
    readPieces ('\\' :: e :: rest) =
      (readPieces rest).map fun r => (.char c :: r.1, r.2) := by
  rw [readPieces.eq_def]
  split
  · simp_all
  · simp_all
  · simp_all
  · next e' rest' _ heq =>
      simp only [List.cons.injEq, true_and] at heq
      obtain ⟨rfl, rfl⟩ := heq
      rw [he]
      cases readPieces rest <;> rfl
  · next c' rest' _ hescape heq =>
      simp only [List.cons.injEq] at heq
      obtain ⟨rfl, rfl⟩ := heq
      exact absurd rfl (hescape e rest rfl)

/-- The unit of four written digits is the number that they were made from. -/
theorem unitOf_hexDigits
    {n : Nat} (h : n < 0x20) :
    ∃ a b c d,
      (hexDigits 4 n).map HexDigit.char = [a, b, c, d] ∧
      unitOf a b c d = some n := by
  refine ⟨_, _, _, _, rfl, ?_⟩
  simp only [unitOf, HexDigit.ofChar?_char, Option.bind_eq_bind, Option.bind_some,
    Option.pure_def, Fin.val_ofNat, Option.some.injEq]
  omega

theorem readPieces_unit
    {n : Nat} (rest : List Char)
    (h : n < 0x20) :
    readPieces ('\\' :: 'u' :: ((hexDigits 4 n).map HexDigit.char ++ rest)) =
      (readPieces rest).map fun r => (.unit n :: r.1, r.2) := by
  obtain ⟨a, b, c, d, hdigits, hunit⟩ := unitOf_hexDigits h
  simp only [hdigits, List.cons_append, List.nil_append, readPieces, hunit]
  cases readPieces rest <;> rfl

/-- A unit below the surrogates is a character of its own. -/
theorem pair_unit
    {n : Nat} (pieces : List Piece)
    (h : n < 0x20) :
    pair (.unit n :: pieces) = (pair pieces).map (Char.ofNat n :: ·) := by
  have hhigh : isHighHalf n = false := by
    simp [isHighHalf]
    omega
  have hlow : isLowHalf n = false := by
    simp [isLowHalf]
    omega
  cases pieces with
  | nil =>
      simp [pair, hhigh, hlow]
  | cons p pieces =>
      cases p <;> simp [pair, hhigh, hlow]

/-- The text of a character inside quotes is read as one piece that stands for it. -/
theorem readPieces_escape
    (c : Char) (rest : List Char) :
    ∃ p : Piece,
      readPieces (escape c ++ rest) = (readPieces rest).map (fun r => (p :: r.1, r.2)) ∧
      ∀ pieces, pair (p :: pieces) = (pair pieces).map (c :: ·) := by
  have hchar : ∀ pieces, pair (.char c :: pieces) = (pair pieces).map (c :: ·) :=
    fun _ => rfl
  have hcode : ∀ n, c.toNat = n → c = Char.ofNat n :=
    fun n hn => by rw [← hn, Char.ofNat_toNat]
  unfold escape
  split
  · next h =>
      subst h
      exact ⟨.char '"', readPieces_shortEscape rest (by decide) rfl, hchar⟩
  split
  · next h =>
      subst h
      exact ⟨.char '\\', readPieces_shortEscape rest (by decide) rfl, hchar⟩
  split
  · next h =>
      refine ⟨.char c, readPieces_shortEscape rest (by decide) ?_, hchar⟩
      rw [hcode _ h]
      rfl
  split
  · next h =>
      refine ⟨.char c, readPieces_shortEscape rest (by decide) ?_, hchar⟩
      rw [hcode _ h]
      rfl
  split
  · next h =>
      refine ⟨.char c, readPieces_shortEscape rest (by decide) ?_, hchar⟩
      rw [hcode _ h]
      rfl
  split
  · next h =>
      refine ⟨.char c, readPieces_shortEscape rest (by decide) ?_, hchar⟩
      rw [hcode _ h]
      rfl
  split
  · next h =>
      refine ⟨.char c, readPieces_shortEscape rest (by decide) ?_, hchar⟩
      rw [hcode _ h]
      rfl
  split
  · next h =>
      refine ⟨.unit c.toNat, readPieces_unit rest h, fun pieces => ?_⟩
      rw [pair_unit pieces h, Char.ofNat_toNat]
  · next hquote hbackslash _ _ _ _ _ hcontrol =>
      have hle : 0x20 ≤ c.toNat := by omega
      exact ⟨.char c, readPieces_char rest hquote hbackslash hle, hchar⟩

/-- The characters of a string are read back as pieces that stand for them. -/
theorem readPieces_escapeAll
    (cs rest : List Char) :
    ∃ pieces : List Piece,
      readPieces (escapeAll cs ++ '"' :: rest) = some (pieces, rest) ∧
      pair pieces = some cs := by
  induction cs with
  | nil =>
      exact ⟨[], by simp [escapeAll, readPieces], rfl⟩
  | cons c cs ih =>
      obtain ⟨pieces, hread, hpair⟩ := ih
      obtain ⟨p, hp, hcons⟩ := readPieces_escape c (escapeAll cs ++ '"' :: rest)
      refine ⟨p :: pieces, ?_, ?_⟩
      · rw [escapeAll, List.flatMap_cons, List.append_assoc]
        rw [escapeAll] at hp hread
        rw [hp, hread]
        rfl
      · rw [hcons, hpair]
        rfl

/-- A quoted text is read back. -/
theorem readQuoted_escapeAll
    (s : String) (rest : List Char) :
    readQuoted (escapeAll s.toList ++ '"' :: rest) = some (.text s, rest) := by
  obtain ⟨pieces, hread, hpair⟩ := readPieces_escapeAll s.toList rest
  simp [readQuoted, hread, Quoted.ofPieces, hpair]

theorem print_text
    (s : String) :
    Quoted.print (.text s) = '"' :: (escapeAll s.toList ++ ['"']) := rfl

theorem print_unpaired :
    Quoted.print .unpaired = ['"', '\\', 'u', 'd', '8', '0', '0', '"'] := by
  decide

/-- A string is read back after its opening quote. -/
theorem readQuoted_print
    (q : Quoted) (rest : List Char) :
    ∃ cs, q.print ++ rest = '"' :: cs ∧ readQuoted cs = some (q, rest) := by
  cases q with
  | text s =>
      refine ⟨escapeAll s.toList ++ '"' :: rest, ?_, readQuoted_escapeAll s rest⟩
      simp [print_text]
  | unpaired =>
      have hunit : unitOf 'd' '8' '0' '0' = some 0xD800 := by decide
      refine ⟨'\\' :: 'u' :: 'd' :: '8' :: '0' :: '0' :: '"' :: rest, ?_, ?_⟩
      · simp [print_unpaired]
      · simp [readQuoted, readPieces, hunit, Quoted.ofPieces, pair, isHighHalf]

theorem readKey_print
    (q : Quoted) (rest : List Char) :
    ∃ cs, q.print ++ ':' :: rest = '"' :: cs ∧ readKey cs = some (q, rest) := by
  obtain ⟨cs, hprint, hread⟩ := readQuoted_print q (':' :: rest)
  refine ⟨cs, hprint, ?_⟩
  have hcolon : skipSpace (':' :: rest) = ':' :: rest := skipSpace_of_not_space (by decide)
  simp [readKey, hread, hcolon]

end Strings

namespace Document

mutual

/-- All numerals of a document are spelled as the reader wants them. -/
def Spelled : Document → Prop
  | .number n => n.Spelled
  | .array items => SpelledItems items
  | .object members => SpelledMembers members
  | _ => True

/-- All numerals of items are spelled as the reader wants them. -/
def SpelledItems : List Document → Prop
  | [] => True
  | d :: rest => d.Spelled ∧ SpelledItems rest

/-- All numerals of members are spelled as the reader wants them. -/
def SpelledMembers : List (Quoted × Document) → Prop
  | [] => True
  | m :: rest => m.2.Spelled ∧ SpelledMembers rest

end

theorem spelledItems_iff
    (items : List Document) :
    SpelledItems items ↔ ∀ d ∈ items, d.Spelled := by
  induction items with
  | nil =>
      simp [SpelledItems]
  | cons d rest ih =>
      simp [SpelledItems, ih]

@[simp] theorem spelled_string (s : String) : (string s).Spelled := by
  simp [string, Spelled]

/-- The first character of a value that is neither a string, an array nor an object. -/
def StartsPlain (c : Char) : Prop :=
  isSpace c = false ∧ c ≠ ']' ∧ c ≠ '"' ∧ c ≠ '[' ∧ c ≠ '{'

instance (c : Char) : Decidable (StartsPlain c) :=
  inferInstanceAs (Decidable (_ ∧ _))

/-- The first character of a numeral. -/
theorem startsPlain_of_numeral
    {c : Char} (h : c = '-' ∨ ∃ d : Digit, c = d.char) :
    StartsPlain c ∧ c ≠ 'n' ∧ c ≠ 't' ∧ c ≠ 'f' := by
  rcases h with rfl | ⟨d, rfl⟩
  · decide
  · revert d
    decide

/-- A printed document starts with a character that is neither white space nor a closing
bracket. -/
theorem compact_head
    (d : Document) (h : d.Spelled) :
    ∃ c cs, d.compact = c :: cs ∧ isSpace c = false ∧ c ≠ ']' := by
  cases d with
  | null =>
      exact ⟨'n', ['u', 'l', 'l'], by simp [compact], by decide, by decide⟩
  | boolean b =>
      cases b with
      | true =>
          exact ⟨'t', ['r', 'u', 'e'], by simp [compact], by decide, by decide⟩
      | false =>
          exact ⟨'f', ['a', 'l', 's', 'e'], by simp [compact], by decide, by decide⟩
  | number n =>
      obtain ⟨c, cs, htext, hc⟩ := n.text_head h
      obtain ⟨hplain, -⟩ := startsPlain_of_numeral hc
      exact ⟨c, cs, by rw [compact, htext], hplain.1, hplain.2.1⟩
  | quoted q =>
      obtain ⟨cs, hprint, -⟩ := readQuoted_print q []
      refine ⟨'"', cs, ?_, by decide, by decide⟩
      rw [compact, ← hprint, List.append_nil]
  | array items =>
      exact ⟨'[', compactItems items ++ [']'], by simp [compact], by decide, by decide⟩
  | object members =>
      exact ⟨'{', compactMembers members ++ ['}'], by simp [compact], by decide, by decide⟩

theorem compactItems_head
    {items : List Document} (hne : items ≠ []) (h : SpelledItems items) :
    ∃ c cs, compactItems items = c :: cs ∧ isSpace c = false ∧ c ≠ ']' := by
  obtain ⟨d, items, rfl⟩ := List.exists_cons_of_ne_nil hne
  obtain ⟨c, cs, hcompact, hspace, hc⟩ := d.compact_head h.1
  cases items with
  | nil =>
      exact ⟨c, cs, by rw [compactItems, hcompact], hspace, hc⟩
  | cons e items =>
      refine ⟨c, cs ++ ',' :: compactItems (e :: items), ?_, hspace, hc⟩
      rw [compactItems, hcompact, List.cons_append]

theorem compactMembers_head
    {members : List (Quoted × Document)} (hne : members ≠ []) :
    ∃ cs, compactMembers members = '"' :: cs := by
  obtain ⟨⟨q, d⟩, members, rfl⟩ := List.exists_cons_of_ne_nil hne
  cases members with
  | nil =>
      obtain ⟨cs, hprint, -⟩ := readQuoted_print q (':' :: d.compact)
      exact ⟨cs, by rw [compactMembers, hprint]⟩
  | cons m members =>
      obtain ⟨cs, hprint, -⟩ :=
        readQuoted_print q (':' :: d.compact ++ ',' :: compactMembers (m :: members))
      refine ⟨cs, ?_⟩
      rw [compactMembers, ← hprint]
      simp

theorem length_compact_pos
    (d : Document) (h : d.Spelled) :
    0 < d.compact.length := by
  obtain ⟨c, cs, hcompact, -⟩ := d.compact_head h
  simp [hcompact]

end Document

section Steps

/-! What the reader does on the first characters of a value, of items and of members. -/

variable (fuel : Nat)

theorem readValue_plain
    {c : Char} (cs : List Char)
    (h : Document.StartsPlain c) :
    readValue (fuel + 1) (c :: cs) = readPlain (c :: cs) := by
  obtain ⟨hspace, -, hquote, hbracket, hbrace⟩ := h
  rw [readValue, skipSpace_of_not_space hspace]
  split
  · simp_all
  · simp_all
  · simp_all
  · rfl

theorem readValue_quote
    (cs : List Char) :
    readValue (fuel + 1) ('"' :: cs) =
      (readQuoted cs).map fun r => (.quoted r.1, r.2) := by
  simp (disch := decide) only [readValue, skipSpace_of_not_space]

theorem readValue_emptyArray
    (cs : List Char) :
    readValue (fuel + 1) ('[' :: ']' :: cs) = some (.array [], cs) := by
  simp (disch := decide) only [readValue, skipSpace_of_not_space]

theorem readValue_array
    {c : Char} (cs : List Char)
    (hspace : isSpace c = false) (hc : c ≠ ']') :
    readValue (fuel + 1) ('[' :: c :: cs) =
      (readItems fuel (c :: cs)).map fun r => (.array r.1, r.2) := by
  simp (disch := decide) only [readValue, skipSpace_of_not_space]
  rw [skipSpace_of_not_space hspace]
  split
  · simp_all
  · rfl

theorem readValue_emptyObject
    (cs : List Char) :
    readValue (fuel + 1) ('{' :: '}' :: cs) = some (.object [], cs) := by
  simp (disch := decide) only [readValue, skipSpace_of_not_space]

theorem readValue_object
    (cs : List Char) :
    readValue (fuel + 1) ('{' :: '"' :: cs) =
      (readMembers fuel ('"' :: cs)).map fun r => (.object r.1, r.2) := by
  simp (disch := decide) only [readValue, skipSpace_of_not_space]
  rfl

variable {fuel} {cs after : List Char} {d : Document}

theorem readItems_last
    (hread : readValue fuel cs = some (d, ']' :: after)) :
    readItems (fuel + 1) cs = some ([d], after) := by
  have hbracket : skipSpace (']' :: after) = ']' :: after :=
    skipSpace_of_not_space (by decide)
  simp [readItems, hread, hbracket]

theorem readItems_more
    {rest : List Char} {items : List Document}
    (hread : readValue fuel cs = some (d, ',' :: rest))
    (hitems : readItems fuel rest = some (items, after)) :
    readItems (fuel + 1) cs = some (d :: items, after) := by
  have hcomma : skipSpace (',' :: rest) = ',' :: rest :=
    skipSpace_of_not_space (by decide)
  simp [readItems, hread, hcomma, hitems]

variable {q : Quoted} {value : List Char}

theorem readMembers_last
    (hkey : readKey cs = some (q, value))
    (hread : readValue fuel value = some (d, '}' :: after)) :
    readMembers (fuel + 1) ('"' :: cs) = some ([(q, d)], after) := by
  have hquote : skipSpace ('"' :: cs) = '"' :: cs :=
    skipSpace_of_not_space (by decide)
  have hbrace : skipSpace ('}' :: after) = '}' :: after :=
    skipSpace_of_not_space (by decide)
  simp [readMembers, hquote, hkey, hread, hbrace]

theorem readMembers_more
    {rest : List Char} {members : List (Quoted × Document)}
    (hkey : readKey cs = some (q, value))
    (hread : readValue fuel value = some (d, ',' :: rest))
    (hmembers : readMembers fuel rest = some (members, after)) :
    readMembers (fuel + 1) ('"' :: cs) = some ((q, d) :: members, after) := by
  have hquote : skipSpace ('"' :: cs) = '"' :: cs :=
    skipSpace_of_not_space (by decide)
  have hcomma : skipSpace (',' :: rest) = ',' :: rest :=
    skipSpace_of_not_space (by decide)
  simp [readMembers, hquote, hkey, hread, hcomma, hmembers]

end Steps

theorem readPlain_number
    (n : Numeral) {rest : List Char}
    (hn : n.Spelled) (h : Numeral.Ends rest) :
    readPlain (n.text ++ rest) = some (.number n, rest) := by
  have hread := Numeral.read_text n hn h
  obtain ⟨c, cs, htext, hc⟩ := n.text_head hn
  obtain ⟨-, hnull, htrue, hfalse⟩ := Document.startsPlain_of_numeral hc
  rw [htext, List.cons_append] at hread ⊢
  rw [readPlain, hread]
  · rfl
  · simp [hnull]
  · simp [htrue]
  · simp [hfalse]

section Values

open Document

mutual

/-- A printed document is taken back from the front of a text. -/
theorem readValue_compact
    (d : Document) (h : d.Spelled)
    (fuel : Nat) (hfuel : 2 * d.compact.length ≤ fuel)
    (rest : List Char) (hrest : Closes rest) :
    readValue fuel (d.compact ++ rest) = some (d, rest) := by
  have hpos := d.length_compact_pos h
  obtain ⟨fuel, rfl⟩ : ∃ k, fuel = k + 1 := ⟨fuel - 1, by omega⟩
  cases d with
  | null =>
      simp only [compact]
      exact readValue_plain fuel _ (by decide)
  | boolean b =>
      cases b with
      | true =>
          simp only [compact]
          exact readValue_plain fuel _ (by decide)
      | false =>
          simp only [compact]
          exact readValue_plain fuel _ (by decide)
  | number n =>
      obtain ⟨c, cs, htext, hc⟩ := n.text_head h
      obtain ⟨hplain, -⟩ := startsPlain_of_numeral hc
      have hread := readPlain_number n h hrest.ends
      rw [compact]
      rw [htext, List.cons_append] at hread ⊢
      rw [readValue_plain fuel _ hplain, hread]
  | quoted q =>
      obtain ⟨cs, hprint, hread⟩ := readQuoted_print q rest
      rw [compact, hprint, readValue_quote, hread]
      rfl
  | array items =>
      simp only [compact, List.length_append, List.length_cons, List.length_nil,
        List.cons_append, List.append_assoc, List.nil_append] at hfuel ⊢
      by_cases hne : items = []
      · subst hne
        exact readValue_emptyArray fuel rest
      · have hitems := readItems_compact items hne h fuel (by omega) rest
        obtain ⟨c, cs, hhead, hspace, hc⟩ := compactItems_head hne h
        rw [hhead, List.cons_append] at hitems ⊢
        rw [readValue_array fuel _ hspace hc, hitems]
        rfl
  | object members =>
      simp only [compact, List.length_append, List.length_cons, List.length_nil,
        List.cons_append, List.append_assoc, List.nil_append] at hfuel ⊢
      by_cases hne : members = []
      · subst hne
        exact readValue_emptyObject fuel rest
      · have hmembers := readMembers_compact members hne h fuel (by omega) rest
        obtain ⟨cs, hhead⟩ := compactMembers_head hne
        rw [hhead, List.cons_append] at hmembers ⊢
        rw [readValue_object, hmembers]
        rfl

/-- Printed items are taken back up to the closing bracket. -/
theorem readItems_compact
    (items : List Document) (hne : items ≠ []) (h : SpelledItems items)
    (fuel : Nat) (hfuel : 2 * (compactItems items).length + 1 ≤ fuel)
    (rest : List Char) :
    readItems fuel (compactItems items ++ ']' :: rest) = some (items, rest) := by
  obtain ⟨fuel, rfl⟩ : ∃ k, fuel = k + 1 := ⟨fuel - 1, by omega⟩
  cases items with
  | nil =>
      exact absurd rfl hne
  | cons d items =>
      cases items with
      | nil =>
          simp only [compactItems] at hfuel ⊢
          exact readItems_last
            (readValue_compact d h.1 fuel (by omega) _ (closes_bracket rest))
      | cons e items =>
          simp only [compactItems, List.length_append, List.length_cons,
            List.append_assoc, List.cons_append] at hfuel ⊢
          exact readItems_more
            (readValue_compact d h.1 fuel (by omega) _ (closes_comma _))
            (readItems_compact (e :: items) (by simp) h.2 fuel (by omega) rest)

/-- Printed members are taken back up to the closing brace. -/
theorem readMembers_compact
    (members : List (Quoted × Document)) (hne : members ≠ []) (h : SpelledMembers members)
    (fuel : Nat) (hfuel : 2 * (compactMembers members).length + 1 ≤ fuel)
    (rest : List Char) :
    readMembers fuel (compactMembers members ++ '}' :: rest) = some (members, rest) := by
  obtain ⟨fuel, rfl⟩ : ∃ k, fuel = k + 1 := ⟨fuel - 1, by omega⟩
  cases members with
  | nil =>
      exact absurd rfl hne
  | cons m members =>
      obtain ⟨q, d⟩ := m
      cases members with
      | nil =>
          simp only [compactMembers, List.length_append, List.length_cons,
            List.append_assoc, List.cons_append] at hfuel ⊢
          obtain ⟨cs, hprint, hkey⟩ := readKey_print q (d.compact ++ '}' :: rest)
          rw [hprint]
          exact readMembers_last hkey
            (readValue_compact d h.1 fuel (by omega) _ (closes_brace rest))
      | cons m members =>
          simp only [compactMembers, List.length_append, List.length_cons,
            List.append_assoc, List.cons_append] at hfuel ⊢
          obtain ⟨cs, hprint, hkey⟩ := readKey_print q
            (d.compact ++ ',' :: (compactMembers (m :: members) ++ '}' :: rest))
          rw [hprint]
          exact readMembers_more hkey
            (readValue_compact d h.1 fuel (by omega) _ (closes_comma _))
            (readMembers_compact (m :: members) (by simp) h.2 fuel (by omega) rest)

end

/-- The text of a spelled document is that document. -/
theorem parse?_text_of_spelled
    {d : Document} (h : d.Spelled) :
    Document.parse? d.text = some d := by
  have hread := readValue_compact d h (2 * d.compact.length + 2) (by omega) [] closes_nil
  rw [List.append_nil] at hread
  simp [Document.parse?, Document.text, hread]

end Values

end Json
end Audience
