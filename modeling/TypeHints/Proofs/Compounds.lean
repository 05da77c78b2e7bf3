import Mathlib.Data.List.Forall2
import TypeHints.Proofs.Literals
import TypeHints.Proofs.Operands
import TypeHints.Text.Segments

/-!
# Texts that are read as types

A text is an operand if it is read as a bare type wherever a type may stand, up to what follows it
(`Operand`), and an item if it is read as a type between commas and brackets (`Item`). Both say of a
text what is read in any surroundings: behind nothing or a space (`leads`), and in front of whatever
may follow (`Closes`, `Continues`). So the rules by which operands and items are put together speak
of texts alone:

* words are operands: names of types, keywords and words that are values (`Operand.name`,
  `Operand.keyword`, `Operand.wordValue`);
* literals are operands (`Operand.string`, `Operand.number`, `Operand.bigint`, `Operand.negative`);
* items between square brackets are an operand, and so are items between angle brackets behind the
  name of an origin (`Operand.tuple`, `Operand.arguments`);
* operands are items (`Operand.item`), and operands with bars between them are an item
  (`Item.union`).

With these rules a rendered hint is read without looking at the reader again, and `Item.parse?` says
that an item is parsed as a whole.

The reader of nested types counts the levels that it may go down. An operand needs no more levels
than it has characters, so that a bracket, which costs one level, pays for it with itself. Items in
brackets are read one after another by one rule (`Reads.separatedFrom`), which is an induction on
the list of the items; the only thing that it takes from the reader is how one item is read
(`ReadsItems`).
-/

namespace TypeHints.Expression

open Lexing TypeHints.Text

/-! ### What stands around a type -/

/-- What may stand in front of a type behind the token before it. -/
def leads : List (List Char) := [[], [' ']]

/-- The text goes on behind a type with another item, or with the end of what the type stands in. -/
def Closes (cs : List Char) : Prop := ∃ c ∈ [',', ']', '>', ';'], ∃ ds, cs = c :: ds

/-- The text goes on behind a type with another member of a union, too. -/
def Continues (cs : List Char) : Prop := Closes cs ∨ ∃ ds, cs = ' ' :: '|' :: ' ' :: ds

section Around

variable {cs ds : List Char} {l : Lexeme} {c : Char}

/-- A space in front of a type makes no difference to its first token. -/
theorem Heads.behind {lead : List Char} (hlead : lead ∈ leads) (hc : isSolid c = true)
    (h : Heads (c :: cs) l ds) : Heads (lead ++ c :: cs) l ds := by
  simp only [leads, List.mem_cons, List.not_mem_nil, or_false] at hlead
  rcases hlead with rfl | rfl
  · exact h
  · exact h.space hc

/-- What closes a type is a sign. -/
theorem Closes.sign (h : Closes cs) :
    ∃ s ∈ [Sign.comma, .closeBracket, .greater, .semicolon], ∃ ds, Heads cs (.sign s) ds := by
  obtain ⟨c, hc, ds, rfl⟩ := h
  simp only [List.mem_cons, List.not_mem_nil, or_false] at hc
  rcases hc with rfl | rfl | rfl | rfl
  · exact ⟨.comma, by decide, ds, heads_comma ds⟩
  · exact ⟨.closeBracket, by decide, ds, heads_closeBracket ds⟩
  · exact ⟨.greater, by decide, ds, heads_greater ds⟩
  · exact ⟨.semicolon, by decide, ds, heads_semicolon ds⟩

/-- What closes a type is no bar, so that no further member follows. -/
theorem Closes.isSign_bar (h : Closes cs) (size : Nat) :
    (Cursor.on size cs).isSign .bar = false := by
  obtain ⟨s, hs, ds, hheads⟩ := h.sign
  rw [Cursor.on_isSign hheads]
  refine decide_eq_false ?_
  rintro ⟨⟩
  exact absurd hs (by decide)

/-- What continues a type ends what stands in front of it. -/
theorem Continues.ends (h : Continues cs) : Ends cs := by
  rcases h with h | ⟨ds, rfl⟩
  · obtain ⟨s, hs, ds, hheads⟩ := h.sign
    refine ⟨s, ?_, ds, hheads⟩
    simp only [List.mem_cons, List.not_mem_nil, or_false] at hs
    rcases hs with rfl | rfl | rfl | rfl <;> decide
  · exact ⟨.bar, by decide, _, heads_bar ds⟩

/-- A delimiter stands behind a type. -/
theorem Continues.delimited (h : Continues cs) : ∃ c ∈ delimiters, ∃ ds, cs = c :: ds := by
  rcases h with ⟨c, hc, ds, rfl⟩ | ⟨ds, rfl⟩
  · exact ⟨c, List.mem_cons_of_mem _ hc, ds, rfl⟩
  · exact ⟨' ', by decide, _, rfl⟩

/-- What continues a type ends a word in front of it. -/
theorem Continues.endsWord (h : Continues cs) : endsWord cs = true := by
  obtain ⟨c, hc, ds, rfl⟩ := h.delimited
  have hall : delimiters.all (fun c ↦ Expression.endsWord (c :: [])) = true := by decide
  exact List.all_eq_true.mp hall c hc

end Around

/-! ### Beginnings -/

/-- A lexeme that a type begins with on its own. -/
def startsOperand : Lexeme → Bool
  | .word w _ => !(reservedWords.contains w) || typeWords.contains w
  | .string _ | .number _ | .bigint _ | .sign .openBracket => true
  | _ => false

/-- A text begins like a type that `rest` stands behind. -/
structure Begins (cs rest : List Char) : Prop where
  opens : ∃ l ds, Opens cs l ds ∧ (∀ e, l ≠ .word "intrinsic" e) ∧ rest.length ≤ ds.length
  starts : ∀ size, cs.length ≤ size → (Cursor.on size cs).startsType = true

section Begins

variable {cs ds rest : List Char} {l : Lexeme} {size : Nat}

/-- Less may be said about what stands behind. -/
theorem Begins.mono (h : Begins cs ds) (hle : rest.length ≤ ds.length) : Begins cs rest := by
  obtain ⟨l, es, hopens, hintrinsic, hlength⟩ := h.opens
  exact ⟨⟨l, es, hopens, hintrinsic, Nat.le_trans hle hlength⟩, h.starts⟩

/-- A type begins with any of these lexemes. -/
theorem startsType_of_lexeme (h : Heads cs l ds) (hl : startsOperand l = true) :
    (Cursor.on size cs).startsType = true := by
  have hplain : (Cursor.on size cs).startsPlainType = true := by
    have hlexeme : (Cursor.on size cs).lexeme = l := Cursor.on_lexeme h
    cases l with
    | word w e =>
      have hword : (Cursor.on size cs).word? = some w := by
        rw [Cursor.word?, hlexeme]
      have hidentifier : (Cursor.on size cs).isIdentifier = !(reservedWords.contains w) := by
        simp [Cursor.isIdentifier, Cursor.isBindable, hword, Mode.plain]
      have htype : (Cursor.on size cs).isWordIn typeWords = typeWords.contains w := by
        rw [Cursor.isWordIn, hword]
        rfl
      rw [startsOperand] at hl
      rw [Cursor.startsPlainType, hidentifier, htype, hl]
      simp
    | sign s =>
      cases s with
      | openBracket =>
        simp [Cursor.startsPlainType, Cursor.isSignIn, hlexeme]
      | _ => cases hl
    | string _ | number _ | bigint _ =>
      simp [Cursor.startsPlainType, Cursor.isString, Cursor.isNumber, hlexeme]
    | _ => cases hl
  rw [Cursor.startsType, Cursor.startsTypeWithin, hplain]
  rfl

/-- A text begins like a type if its first lexeme does and the next one fits. -/
theorem begins_of_lexeme (h : Heads cs l ds) (hopens : opensOperand l = true)
    (hl : startsOperand l = true) (hintrinsic : ∀ e, l ≠ .word "intrinsic" e)
    (hfollowed : ∀ w e, l = .word w e → ∃ s ∈ .less :: endSigns, ∃ es, Heads ds (.sign s) es)
    (hrest : rest.length ≤ ds.length) : Begins cs rest :=
  ⟨⟨l, ds, ⟨h, hopens, hfollowed⟩, hintrinsic, hrest⟩, fun _ _ ↦ startsType_of_lexeme h hl⟩

end Begins

/-! ### Operands and items -/

/-- A character that a type begins with. The signs that change an opening angle bracket are left
out. -/
def opensText (c : Char) : Bool := isSolid c && c ≠ '<' && c ≠ '='

/-- A text begins like a type and does not end in white space. -/
structure Edged (t : String) : Prop where
  first : t.toList.head?.any opensText = true
  last : t.toList.getLast?.any (fun c ↦ !isBlank c) = true

/-- A text is read as a bare type in front of everything that continues a type. As many levels as it
has characters are enough. -/
structure Operand (t : String) (node : Node) : Prop where
  edged : Edged t
  supported : ∀ form start stop, node ≠ .unsupported form start stop
  begins : ∀ lead ∈ leads, ∀ rest, Continues rest → Begins (lead ++ (t.toList ++ rest)) rest
  reads : ∀ lead ∈ leads, ∀ rest, Continues rest → ∀ size k, t.toList.length ≤ k →
    Reads size (Reader.bareType (.level k)) node (lead ++ (t.toList ++ rest)) rest

/-- A text is read as a type in front of everything that closes a type. -/
structure Item (t : String) (node : Node) : Prop where
  edged : Edged t
  supported : ∀ form start stop, node ≠ .unsupported form start stop
  begins : ∀ lead ∈ leads, ∀ rest, Closes rest → Begins (lead ++ (t.toList ++ rest)) rest
  reads : ∀ lead ∈ leads, ∀ rest, Closes rest → ∀ size k, t.toList.length ≤ k →
    Reads size (Reader.union (.level k)) node (lead ++ (t.toList ++ rest)) rest

section Rules

variable {t : String} {node : Node} {l : Lexeme}

/-- A text that begins like a type has a first character. -/
theorem Edged.exists_cons (h : Edged t) : ∃ c cs, t.toList = c :: cs ∧ opensText c = true := by
  have hfirst := h.first
  cases hchars : t.toList with
  | nil =>
    rw [hchars] at hfirst
    cases hfirst
  | cons c cs =>
    rw [hchars] at hfirst
    exact ⟨c, cs, rfl, hfirst⟩

/-- Types begin with solid characters. -/
theorem isSolid_of_opensText {c : Char} (h : opensText c = true) : isSolid c = true := by
  simp only [opensText, Bool.and_eq_true] at h
  exact h.1.1

/-- A space in front of the text makes no difference to its first token. -/
theorem Edged.heads (h : Edged t) {lead rest ds : List Char} (hlead : lead ∈ leads)
    (hheads : Heads (t.toList ++ rest) l ds) : Heads (lead ++ (t.toList ++ rest)) l ds := by
  obtain ⟨c, cs, hchars, hc⟩ := h.exists_cons
  rw [hchars] at hheads ⊢
  exact hheads.behind hlead (isSolid_of_opensText hc)

/-- White space around a text with such ends is none of the text. -/
theorem Edged.trimChars_eq (h : Edged t) : trimChars t.toList = t.toList := by
  obtain ⟨c, cs, hchars, hc⟩ := h.exists_cons
  have hfirst : t.toList.dropWhile isBlank = t.toList := by
    rw [hchars, List.dropWhile_cons, not_isBlank_of_isSolid (isSolid_of_opensText hc),
      if_neg Bool.false_ne_true]
  have hlast : t.toList.reverse.dropWhile isBlank = t.toList.reverse := by
    have hend := h.last
    rw [List.getLast?_eq_head?_reverse] at hend
    cases hreverse : t.toList.reverse with
    | nil => rfl
    | cons d ds =>
      rw [hreverse] at hend
      have hd : isBlank d = false := by simpa using hend
      rw [List.dropWhile_cons, hd, if_neg Bool.false_ne_true]
  rw [trimChars, hfirst, hlast, List.reverse_reverse]

/-- A text that is one token is an operand if the token is read as one. -/
theorem Operand.of_lexeme (hedged : Edged t)
    (hsupported : ∀ form start stop, node ≠ .unsupported form start stop)
    (hheads : ∀ rest, Continues rest → Heads (t.toList ++ rest) l rest)
    (hopens : opensOperand l = true) (hstarts : startsOperand l = true)
    (hintrinsic : ∀ e, l ≠ .word "intrinsic" e)
    (hread : ∀ size R cs rest, Heads cs l rest → Ends rest →
      Reads size (Reader.bareType R) node cs rest) : Operand t node where
  edged := hedged
  supported := hsupported
  begins lead hlead rest hrest := by
    refine begins_of_lexeme (hedged.heads hlead (hheads rest hrest)) hopens hstarts hintrinsic ?_
      (Nat.le_refl _)
    intro _ _ _
    obtain ⟨s, hs, es, h⟩ := hrest.ends
    exact ⟨s, List.mem_cons_of_mem _ hs, es, h⟩
  reads lead hlead rest hrest size k _ :=
    hread size _ _ _ (hedged.heads hlead (hheads rest hrest)) hrest.ends

/-- An operand is an item. -/
theorem Operand.item (h : Operand t node) : Item t node where
  edged := h.edged
  supported := h.supported
  begins lead hlead rest hrest := h.begins lead hlead rest (.inl hrest)
  reads lead hlead rest hrest size k hk := by
    obtain ⟨l, ds, hopens, -, -⟩ := (h.begins lead hlead rest (.inl hrest)).opens
    exact .union hopens (h.reads lead hlead rest (.inl hrest) size k hk)
      (Continues.ends (.inl hrest)) (hrest.isSign_bar size)

/-- An item is parsed as a whole. -/
theorem Item.parse? (h : Item t node) : parse? (trimChars t.toList) = some node := by
  have hlead : [] ∈ leads := List.mem_cons_self
  have hrest : Closes [';'] := ⟨';', by decide, [], rfl⟩
  obtain ⟨l, ds, hopens, hintrinsic, -⟩ := (h.begins [] hlead [';'] hrest).opens
  rw [h.edged.trimChars_eq]
  exact parse?_of_union hopens hintrinsic
    (h.reads [] hlead [';'] hrest (t.toList.length + 1) (4 * t.toList.length + 15) (by omega))

end Rules

/-! ### Words -/

section Words

variable {w : String} {node : Node}

/-- A word that is read as a type of its own is read as a bare type. -/
theorem Reads.bareType_word {size : Nat} {R : Nested} {cs ds rest : List Char} {e : Bool}
    (h : Heads cs (.word w e) ds) (hr : Reads size (Reader.wordType R w) node cs rest) :
    Reads size (Reader.bareType R) node cs rest := by
  refine .here ?_
  rw [Cursor.on_lexeme h]
  exact hr

/-- Words begin and end as types do. -/
theorem edged_of_isWord (hw : isWord w = true) : Edged w := by
  rw [isWord] at hw
  cases hchars : w.toList with
  | nil =>
    rw [hchars] at hw
    cases hw
  | cons c cs =>
    rw [hchars] at hw
    obtain ⟨hstart, hparts⟩ := Bool.and_eq_true_iff.mp hw
    have hne {d : Char} (hd : isWordStart d = false) : c ≠ d := ne_of_isWordStart hstart hd
    refine ⟨?_, ?_⟩
    · rw [hchars]
      simp [opensText, isSolid_of_isWordStart hstart, hne (d := '<') (by decide),
        hne (d := '=') (by decide)]
    · have hsolid : ∀ d ∈ w.toList, isSolid d = true := by
        rw [hchars]
        refine List.forall_mem_cons.mpr ⟨isSolid_of_isWordStart hstart, fun d hd ↦ ?_⟩
        exact isSolid_of_isIdContinue (isIdContinue_of_isWordPart (List.all_eq_true.mp hparts d hd))
      have hne : w.toList ≠ [] := by
        rw [hchars]
        exact List.cons_ne_nil _ _
      rw [List.getLast?_eq_some_getLast hne]
      simpa using not_isBlank_of_isSolid (hsolid _ (List.getLast_mem hne))

/-- A word that is read as a type, and is neither reserved nor an operator, is an operand. -/
theorem Operand.word (hw : isWord w = true) (hopens : opensOperand (.word w false) = true)
    (hstarts : startsOperand (.word w false) = true) (hintrinsic : w ≠ "intrinsic")
    (hsupported : ∀ form start stop, node ≠ .unsupported form start stop)
    (hread : ∀ size R cs rest, Heads cs (.word w false) rest → Ends rest →
      Reads size (Reader.wordType R w) node cs rest) : Operand w node := by
  refine .of_lexeme (edged_of_isWord hw) hsupported
    (fun rest hrest ↦ heads_word hw hrest.endsWord) hopens hstarts ?_
    fun size R cs rest h hends ↦ .bareType_word h (hread size R cs rest h hends)
  rintro e ⟨⟩
  exact hintrinsic rfl

/-- The names of types that are read as nothing else: words that are not reserved, mean no type of
their own and are no operators. -/
def isTypeName (w : String) : Bool :=
  isWord w && !(reservedWords.contains w) && !(keywordTypes.contains w) &&
    !(["keyof", "unique", "readonly", "infer", "intrinsic"].contains w)

/-- Names of types are words. -/
theorem isWord_of_isTypeName (hw : isTypeName w = true) : isWord w = true := by
  simp only [isTypeName, Bool.and_eq_true] at hw
  exact hw.1.1.1

/-- Names of types are not reserved and mean no type of their own. -/
theorem notMem_of_isTypeName (hw : isTypeName w = true) : w ∉ reservedWords ∧ w ∉ ownWords := by
  simp only [isTypeName, Bool.and_eq_true, Bool.not_eq_true', List.contains_eq_mem,
    decide_eq_false_iff_not] at hw
  obtain ⟨⟨⟨-, hreserved⟩, hkeyword⟩, -⟩ := hw
  have hothers : ∀ v ∈ ["void", "null", "true", "false", "this", "typeof", "import"],
      v ∈ reservedWords := by decide
  refine ⟨hreserved, ?_⟩
  rw [ownWords, List.mem_append]
  rintro (h | h)
  · exact hkeyword h
  · exact hreserved (hothers w h)

/-- The name of a type begins a type of its own. -/
theorem opens_of_isTypeName (hw : isTypeName w = true) :
    opensOperand (.word w false) = true ∧ startsOperand (.word w false) = true ∧
      w ≠ "intrinsic" := by
  have hreserved := (notMem_of_isTypeName hw).1
  have hnew : w ≠ "new" := by
    rintro rfl
    exact hreserved (by decide)
  simp only [isTypeName, Bool.and_eq_true, Bool.not_eq_true', List.contains_eq_mem, List.mem_cons,
    List.not_mem_nil, or_false, decide_eq_false_iff_not, not_or] at hw
  obtain ⟨-, hkeyof, hunique, hreadonly, hinfer, hintrinsic⟩ := hw
  exact ⟨by simp [opensOperand, hkeyof, hunique, hreadonly, hinfer, hnew],
    by simp [startsOperand, hreserved], hintrinsic⟩

/-- The name of a type is an operand. -/
theorem Operand.name (hw : isTypeName w = true) : Operand w (.reference w [] none) := by
  obtain ⟨hopens, hstarts, hintrinsic⟩ := opens_of_isTypeName hw
  exact .word (isWord_of_isTypeName hw) hopens hstarts hintrinsic nofun
    fun size R cs rest h hends ↦ .wordType_name h hends (notMem_of_isTypeName hw).2

/-- A keyword that is a type is an operand. -/
theorem Operand.keyword {k : Keyword} (hw : w ∈ keywordTypes) (hk : Keyword.ofWord? w = some k) :
    Operand w (.keyword k) := by
  have hall : ∀ v ∈ keywordTypes, isWord v = true ∧ opensOperand (.word v false) = true ∧
      startsOperand (.word v false) = true ∧ v ≠ "intrinsic" := by decide
  obtain ⟨hword, hopens, hstarts, hintrinsic⟩ := hall w hw
  exact .word hword hopens hstarts hintrinsic nofun
    fun size R cs rest h hends ↦ .wordType_keyword h hends hw hk

/-- A value that is written as a word is an operand. -/
theorem Operand.wordValue {v : Literal} (hw : (w, v) ∈ wordValues) : Operand w (.literal v) := by
  have hall : ∀ e ∈ wordValues, isWord e.1 = true ∧ opensOperand (.word e.1 false) = true ∧
      startsOperand (.word e.1 false) = true ∧ e.1 ≠ "intrinsic" := by decide
  obtain ⟨hword, hopens, hstarts, hintrinsic⟩ := hall _ hw
  exact .word hword hopens hstarts hintrinsic nofun fun size R cs rest h _ ↦ .wordType_value h hw

end Words

/-! ### Literals -/

section Literals

theorem any_head?_append {p : Char → Bool} {cs ds : List Char} (h : cs.head?.any p = true) :
    (cs ++ ds).head?.any p = true := by
  cases cs with
  | nil => cases h
  | cons c cs => exact h

theorem any_getLast?_append {p : Char → Bool} {cs ds : List Char} (h : ds.getLast?.any p = true) :
    (cs ++ ds).getLast?.any p = true := by
  rw [List.getLast?_append]
  cases hlast : ds.getLast? with
  | none =>
    rw [hlast] at h
    cases h
  | some c => rwa [hlast] at h

/-- Only the ends of a text that is put together matter to how it begins and ends. -/
theorem edged_append {s t : String} (hfirst : s.toList.head?.any opensText = true)
    (hlast : t.toList.getLast?.any (fun c ↦ !isBlank c) = true) : Edged (s ++ t) where
  first := by
    rw [String.toList_append]
    exact any_head?_append hfirst
  last := by
    rw [String.toList_append]
    exact any_getLast?_append hlast

/-- A type may begin with a digit. -/
theorem opensText_of_isDigit {c : Char} (hc : isDigit c = true) : opensText c = true := by
  simp [opensText, isSolid_of_isDigit hc, ne_of_isDigit (d := '<') hc (by decide),
    ne_of_isDigit (d := '=') hc (by decide)]

/-- Decimal numerals begin and end as types do. -/
theorem edged_decimal (n : Nat) : Edged (decimal n) := by
  have hchars : (decimal n).toList = decimalChars n := String.toList_ofList
  have hne : decimalChars n ≠ [] := Nat.toDigits_ne_nil
  refine ⟨?_, ?_⟩
  · rw [hchars, List.head?_eq_some_head hne]
    exact opensText_of_isDigit (isDigit_of_mem_decimalChars (List.head_mem hne))
  · rw [hchars, List.getLast?_eq_some_getLast hne]
    simpa using not_isBlank_of_isSolid
      (isSolid_of_isDigit (isDigit_of_mem_decimalChars (List.getLast_mem hne)))

/-- A quoted text of printable characters is an operand. -/
theorem Operand.string {t : String} (ht : ∀ c ∈ t.toList, isPrintable c = true) :
    Operand (quote t) (.literal (.string t)) := by
  refine .of_lexeme (l := .string t) ?_ nofun (fun rest _ ↦ heads_quote ht rest) rfl rfl nofun
    fun size R cs rest h _ ↦ .here ?_
  · have hchars : (quote t).toList = ('\x22' :: escaped t.toList) ++ ['\x22'] :=
      String.toList_ofList
    refine ⟨?_, ?_⟩
    · rw [hchars]
      rfl
    · rw [hchars]
      exact any_getLast?_append rfl
  · rw [Cursor.on_lexeme h]
    exact .bind (.pass h rfl) (.pure _)

/-- A decimal numeral is an operand. -/
theorem Operand.number (n : Nat) :
    Operand (decimal n) (.literal (.number (.ofDecimal false n 0))) := by
  refine .of_lexeme (l := .number (.ofDecimal false n 0)) (edged_decimal n) nofun
    (fun rest hrest ↦ ?_) rfl rfl nofun fun size R cs rest h _ ↦ .here ?_
  · obtain ⟨c, hc, ds, rfl⟩ := hrest.delimited
    rw [decimal, String.toList_ofList]
    exact heads_decimal n hc
  · rw [Cursor.on_lexeme h]
    exact .bind (.pass h rfl) (.pure _)

/-- A decimal numeral with the suffix of big integers is an operand. -/
theorem Operand.bigint (n : Nat) : Operand (decimal n ++ "n") (.literal (.bigint n)) := by
  refine .of_lexeme (l := .bigint n) (edged_append (edged_decimal n).first rfl) nofun
    (fun rest hrest ↦ ?_) rfl rfl nofun fun size R cs rest h _ ↦ .here ?_
  · obtain ⟨c, hc, ds, rfl⟩ := hrest.delimited
    rw [decimal, String.toList_append, String.toList_ofList, List.append_assoc]
    exact heads_bigint n hc
  · rw [Cursor.on_lexeme h]
    exact .bind (.pass h rfl) (.pure _)

/-- A decimal numeral behind a minus sign is an operand. -/
theorem Operand.negative (n : Nat) :
    Operand ("-" ++ decimal n) (.literal (.number (Binary64.ofDecimal false n 0).negate)) := by
  have hedged : Edged ("-" ++ decimal n) := edged_append rfl (edged_decimal n).last
  have hheads {rest : List Char} (hrest : Continues rest) :
      Heads (("-" ++ decimal n).toList ++ rest) (.sign .minus) (decimalChars n ++ rest) ∧
        Heads (decimalChars n ++ rest) (.number (.ofDecimal false n 0)) rest := by
    obtain ⟨c, hc, ds, rfl⟩ := hrest.delimited
    have hnumber : Heads _ _ (c :: ds) := heads_decimal n hc
    have htext : ("-" ++ decimal n).toList = '-' :: decimalChars n := by
      simp [decimal]
    rw [htext]
    cases hchars : decimalChars n with
    | nil => exact absurd hchars Nat.toDigits_ne_nil
    | cons d es =>
      have hd : isDigit d = true :=
        isDigit_of_mem_decimalChars (n := n) (hchars ▸ List.mem_cons_self)
      rw [hchars] at hnumber
      -- a digit makes no longer sign of the minus sign
      have hminus := heads_single (es ++ c :: ds) (a := '-') (s := .minus) (by decide)
        (ne_of_isDigit hd (by decide)) (ne_of_isDigit hd (by decide))
      exact ⟨hminus, hnumber⟩
  refine ⟨hedged, nofun, fun lead hlead rest hrest ↦ ?_, fun lead hlead rest hrest size k _ ↦ ?_⟩
  · obtain ⟨hminus, hnumber⟩ := hheads hrest
    have hminus' := hedged.heads hlead hminus
    refine ⟨⟨_, _, ⟨hminus', rfl, nofun⟩, nofun, by simp⟩, fun size hsize ↦ ?_⟩
    rw [Cursor.startsType, Cursor.startsTypeWithin, Cursor.on_isSign hminus',
      Cursor.on_next hminus' hsize, Cursor.isNumber, Cursor.on_lexeme hnumber]
    simp
  · obtain ⟨hminus, hnumber⟩ := hheads hrest
    have hminus' := hedged.heads hlead hminus
    refine .here ?_
    rw [Cursor.on_lexeme hminus']
    refine .here (.bind (.pass hminus' rfl) (.here ?_))
    rw [Cursor.on_lexeme hnumber]
    exact .bind (.pass hnumber rfl) (.pure _)

end Literals

/-! ### Texts with a separator between them -/

/-- The texts behind the first of some texts with a separator between them. -/
def trailing (sep : String) (ts : List String) : List Char :=
  ts.flatMap fun t ↦ sep.toList ++ t.toList

section Joined

variable {sep t u : String} {ts : List String}

@[simp] theorem trailing_nil : trailing sep [] = [] := rfl

@[simp] theorem trailing_cons :
    trailing sep (t :: ts) = sep.toList ++ (t.toList ++ trailing sep ts) := by
  simp [trailing]

/-- Joined texts are the first one and what trails behind it. -/
theorem toList_joinWith_cons (sep t : String) (ts : List String) :
    (joinWith sep (t :: ts)).toList = t.toList ++ trailing sep ts := by
  induction ts generalizing t with
  | nil => simp
  | cons u ts ih =>
    rw [joinWith_cons_cons, String.toList_append, String.toList_append, ih, trailing_cons,
      List.append_assoc]

/-- There are no more texts than characters behind the first one, so that the length is enough fuel.
-/
theorem length_le_trailing (sep : String) (hsep : 0 < sep.toList.length) (ts : List String) :
    ts.length ≤ (trailing sep ts).length := by
  induction ts with
  | nil => exact Nat.le_refl _
  | cons t ts ih =>
    simp only [trailing_cons, List.length_append, List.length_cons]
    omega

/-- No text is longer than all of them together. -/
theorem length_le_joinWith (sep : String) (hu : u ∈ ts) :
    u.toList.length ≤ (joinWith sep ts).toList.length := by
  induction ts with
  | nil => cases hu
  | cons t ts ih =>
    rw [toList_joinWith_cons, List.length_append]
    rcases List.mem_cons.mp hu with rfl | hu
    · omega
    · cases ts with
      | nil => cases hu
      | cons v ts =>
        have := ih hu
        rw [toList_joinWith_cons, List.length_append] at this
        rw [trailing_cons, List.length_append, List.length_append]
        omega

/-- Joined texts begin and end as types do. -/
theorem Edged.joinWith (h : ∀ u ∈ t :: ts, Edged u) : Edged (Text.joinWith sep (t :: ts)) := by
  induction ts generalizing t with
  | nil => exact h t List.mem_cons_self
  | cons u ts ih =>
    obtain ⟨ht, hts⟩ := List.forall_mem_cons.mp h
    rw [joinWith_cons_cons, String.append_assoc]
    refine edged_append ht.first ?_
    rw [String.toList_append]
    exact any_getLast?_append (ih hts).last

end Joined

/-! ### Items in brackets -/

section Lists

variable {size k : Nat} {R : Nested} {t : String} {node : Node} {ts : List String}
  {nodes : List Node} {starts ends : Cursor → Bool} {r : Reader Node} {lead rest cs : List Char}

/-- A reader reads items of at most the given length, where a condition holds. -/
structure ReadsItems (size k : Nat) (starts : Cursor → Bool) (r : Reader Node) : Prop where
  starts {cs rest : List Char} (h : Begins cs rest) (hsize : cs.length ≤ size) :
    starts (.on size cs) = true
  reads {t : String} {node : Node} (h : Item t node) (ht : t.toList.length ≤ k)
    {lead rest : List Char} (hlead : lead ∈ leads) (hrest : Closes rest) :
    Reads size r node (lead ++ (t.toList ++ rest)) rest

/-- Behind an item there is a comma or what closes the last one. -/
theorem Closes.behind_trailing (h : Closes rest) (ts : List String) :
    Closes (trailing ", " ts ++ rest) := by
  cases ts with
  | nil => exact h
  | cons t ts => exact ⟨',', by decide, _, rfl⟩

/-- Items with commas between them are read one by one up to an end. -/
theorem Reads.separatedFrom (hr : ReadsItems size k starts r) (hrest : Closes rest)
    (hcomma : (Cursor.on size rest).isSign .comma = false) (hends : ends (.on size rest) = true)
    (hnodes : List.Forall₂ Item ts nodes) (hlength : ∀ u ∈ ts, u.toList.length ≤ k) :
    ∀ {t node}, Item t node → t.toList.length ≤ k → ∀ lead ∈ leads, ∀ n, ts.length < n →
      Reads size (Reader.separatedFrom starts ends r n) (node :: nodes)
        (lead ++ (t.toList ++ (trailing ", " ts ++ rest))) rest := by
  induction hnodes with
  | nil =>
    intro t node ht htlength lead hlead n hn
    obtain ⟨n, rfl⟩ : ∃ m, n = m + 1 := ⟨n - 1, by omega⟩
    rw [trailing_nil, List.nil_append]
    refine .of_size fun hsize ↦ .here ?_
    rw [hr.starts (ht.begins lead hlead rest hrest) hsize]
    refine .bind (hr.reads ht htlength hlead hrest) (.bind (.optional_false hcomma) ?_)
    exact .here (.bind (.require hends) (.pure _))
  | @cons u node' us nodes hu hus ih =>
    intro t node ht htlength lead hlead n hn
    obtain ⟨n, rfl⟩ : ∃ m, n = m + 1 := ⟨n - 1, by omega⟩
    obtain ⟨hulength, huslength⟩ := List.forall_mem_cons.mp hlength
    have hcloses := hrest.behind_trailing (u :: us)
    -- the comma goes with the item in front of it, the space behind it with the next one
    have hnext := ih huslength hu hulength [' '] (by decide) n (Nat.lt_of_succ_lt_succ hn)
    have htail : trailing ", " (u :: us) ++ rest =
        ',' :: ([' '] ++ (u.toList ++ (trailing ", " us ++ rest))) := by simp
    have hheads := heads_comma ([' '] ++ (u.toList ++ (trailing ", " us ++ rest)))
    refine .of_size fun hsize ↦ .here ?_
    rw [hr.starts (ht.begins lead hlead _ hcloses) hsize]
    refine .bind (hr.reads ht htlength hlead hcloses) ?_
    rw [htail]
    exact .bind (.optional_true (by rw [Cursor.on_isSign hheads]; rfl) hheads rfl)
      (.bind hnext (.pure _))

/-- Items with commas between them are read up to a closing sign. -/
theorem Reads.enclosed (hr : ReadsItems size k starts r) {c : Char} {close : Sign}
    (hheads : Heads (c :: rest) (.sign close) rest) (hcloses : Closes (c :: rest))
    (hcomma : close ≠ .comma) (hnone : starts (.on size (c :: rest)) = false)
    (hnodes : List.Forall₂ Item ts nodes) (hlength : ∀ u ∈ ts, u.toList.length ≤ k) :
    Reads size (Reader.enclosed starts r close) nodes
      ((joinWith ", " ts).toList ++ c :: rest) rest := by
  have hends : (Cursor.on size (c :: rest)).isSign close = true := by
    rw [Cursor.on_isSign hheads]
    exact decide_eq_true rfl
  have hnocomma : (Cursor.on size (c :: rest)).isSign .comma = false := by
    rw [Cursor.on_isSign hheads]
    simpa using hcomma
  have hitems : Reads size (Reader.separated starts (·.isSign close) r) nodes
      ((joinWith ", " ts).toList ++ c :: rest) (c :: rest) := by
    cases hnodes with
    | nil =>
      refine .here ?_
      rw [Reader.separatedFrom]
      refine .here ?_
      rw [joinWith_nil, String.toList_empty, List.nil_append, hnone]
      exact .here (.bind (.require hends) (.pure _))
    | @cons t node ts nodes ht hts =>
      obtain ⟨htlength, htslength⟩ := List.forall_mem_cons.mp hlength
      rw [toList_joinWith_cons, List.append_assoc]
      refine .here (.separatedFrom hr hcloses hnocomma hends hts htslength ht htlength []
        List.mem_cons_self _ ?_)
      -- what stands behind the first token is as long as there are items to come
      obtain ⟨l, ds, hopens, -, hle⟩ :=
        (ht.begins [] List.mem_cons_self _ (hcloses.behind_trailing ts)).opens
      have hlong := length_le_trailing ", " (by decide) ts
      rw [List.length_append] at hle
      rw [List.nil_append] at hopens
      rw [Cursor.on_rest hopens.heads]
      omega
  exact .bind hitems (.bind (.expect hends hheads rfl) (.pure _))

/-- No argument begins with a sign that closes the arguments. -/
theorem startsTypeArgument_false {s : Sign} {cs ds : List Char} (h : Heads cs (.sign s) ds)
    (hs : s ∈ [Sign.closeBracket, .greater]) : (Cursor.on size cs).startsTypeArgument = false := by
  simp only [List.mem_cons, List.not_mem_nil, or_false] at hs
  rcases hs with rfl | rfl <;>
    simp [Cursor.startsTypeArgument, Cursor.startsType, Cursor.startsTypeWithin,
      Cursor.startsPlainType, Cursor.isSign, Cursor.isSignIn, Cursor.isIdentifier, Cursor.isBindable,
      Cursor.isWordIn, Cursor.isWord, Cursor.word?, Cursor.isString, Cursor.isNumber,
      Cursor.isTemplate, Cursor.on_lexeme h]

/-- Items are read as types. -/
theorem readsItems_type (size k : Nat) :
    ReadsItems size k (·.startsTypeArgument) (Nested.level (k + 1)).type where
  starts h hsize := by
    rw [Cursor.startsTypeArgument, h.starts size hsize, Bool.or_true]
  reads h ht lead rest hlead hrest := by
    obtain ⟨l, ds, hopens, -, -⟩ := (h.begins _ hlead _ hrest).opens
    exact .type hopens (h.reads _ hlead _ hrest size k ht) (Continues.ends (.inl hrest))

/-- No label stands in front of an item. -/
theorem Begins.startsLabel (h : Begins cs rest) (hsize : cs.length ≤ size) :
    (Cursor.on size cs).startsLabel = false := by
  obtain ⟨l, ds, hopens, -, -⟩ := h.opens
  rw [Cursor.startsLabel, hopens.isSign_false (by decide), if_neg Bool.false_ne_true,
    Bool.and_eq_false_imp]
  intro hword
  obtain ⟨w, e, rfl⟩ : ∃ w e, l = .word w e := by
    have hkind := hopens.opens
    rw [Cursor.isAnyWord, Cursor.on_lexeme hopens.heads] at hword
    cases l with
    | word w e => exact ⟨w, e, rfl⟩
    | privateWord w => cases hkind
    | _ => cases hword
  obtain ⟨s, hs, es, hsign⟩ := hopens.followed w e rfl
  have hnone (t : Sign) (ht : t ∉ .less :: endSigns) : (Cursor.on size ds).isSign t = false := by
    rw [Cursor.on_isSign hsign]
    refine decide_eq_false ?_
    rintro ⟨⟩
    exact ht hs
  rw [Cursor.on_next hopens.heads hsize, hnone .colon (by decide), hnone .question (by decide)]
  rfl

/-- Items are read as elements of tuples. -/
theorem readsItems_element (size k : Nat) :
    ReadsItems size k (·.startsTypeArgument) (Reader.element (.level (k + 1))) where
  starts h hsize := (readsItems_type size k).starts h hsize
  reads {t node} h ht lead rest hlead hrest := by
    have hbegins := h.begins _ hlead _ hrest
    obtain ⟨l, ds, hopens, -, -⟩ := hbegins.opens
    refine .of_size fun hsize ↦ .here ?_
    rw [hbegins.startsLabel hsize]
    refine .here (.bind (.optional_false (hopens.isSign_false (by decide))) ?_)
    refine .bind ((readsItems_type size k).reads h ht hlead hrest) ?_
    cases node with
    | unsupported form start stop => exact absurd rfl (h.supported form start stop)
    | _ => exact .pure _

/-- Joined items begin and end as types do. -/
theorem edged_joinWith {sep : String} (hne : ts ≠ []) (hnodes : List.Forall₂ Item ts nodes) :
    Edged (joinWith sep ts) := by
  have hedged : ∀ u ∈ ts, Edged u := by
    clear hne
    induction hnodes with
    | nil => exact List.forall_mem_nil _
    | cons h _ ih => exact List.forall_mem_cons.mpr ⟨h.edged, ih⟩
  cases ts with
  | nil => exact absurd rfl hne
  | cons t ts => exact .joinWith hedged

/-- No item makes another sign of the angle bracket in front of it. -/
theorem heads_less_items (hne : ts ≠ []) (hnodes : List.Forall₂ Item ts nodes) (rest : List Char) :
    Heads ('<' :: ((joinWith ", " ts).toList ++ rest)) (.sign .less)
      ((joinWith ", " ts).toList ++ rest) := by
  obtain ⟨c, cs, hchars, hc⟩ := (edged_joinWith hne hnodes).exists_cons
  rw [hchars]
  simp only [opensText, Bool.and_eq_true, decide_eq_true_eq] at hc
  exact heads_single _ (by decide) hc.1.2 hc.2

/-- Items are read as the elements of a tuple, up to the closing bracket. -/
theorem Reads.elements (hnodes : List.Forall₂ Item ts nodes)
    (hk : (joinWith ", " ts).toList.length ≤ k) :
    Reads size (Reader.enclosed (·.startsTypeArgument) (Reader.element (.level (k + 1)))
      .closeBracket) nodes ((joinWith ", " ts).toList ++ ']' :: rest) rest := by
  have hclose := heads_closeBracket rest
  exact .enclosed (readsItems_element size k) hclose ⟨_, by decide, _, rfl⟩ nofun
    (startsTypeArgument_false hclose (by decide)) hnodes
    fun u hu ↦ Nat.le_trans (length_le_joinWith ", " hu) hk

/-- Items are read as arguments, up to the closing angle bracket. -/
theorem Reads.typeArguments (hnodes : List.Forall₂ Item ts nodes)
    (hk : (joinWith ", " ts).toList.length ≤ k) :
    Reads size (Reader.typeArguments (.level (k + 1))) nodes
      ((joinWith ", " ts).toList ++ '>' :: rest) rest := by
  have hclose := heads_greater rest
  exact .enclosed (readsItems_type size k) hclose ⟨_, by decide, _, rfl⟩ nofun
    (startsTypeArgument_false hclose (by decide)) hnodes
    fun u hu ↦ Nat.le_trans (length_le_joinWith ", " hu) hk

/-- Items between square brackets are an operand, a tuple. -/
theorem Operand.tuple (hnodes : List.Forall₂ Item ts nodes) :
    Operand ("[" ++ joinWith ", " ts ++ "]") (.tuple nodes) := by
  have hedged : Edged ("[" ++ joinWith ", " ts ++ "]") := by
    refine edged_append ?_ rfl
    rw [String.toList_append]
    rfl
  have htext (rest : List Char) : ("[" ++ joinWith ", " ts ++ "]").toList ++ rest =
      '[' :: ((joinWith ", " ts).toList ++ ']' :: rest) := by
    simp
  have hheads (lead : List Char) (hlead : lead ∈ leads) (rest : List Char) :
      Heads (lead ++ (("[" ++ joinWith ", " ts ++ "]").toList ++ rest)) (.sign .openBracket)
        ((joinWith ", " ts).toList ++ ']' :: rest) :=
    hedged.heads hlead (htext rest ▸ heads_openBracket _)
  refine ⟨hedged, nofun, fun lead hlead rest hrest ↦ ?_, fun lead hlead rest hrest size k hk ↦ ?_⟩
  · refine begins_of_lexeme (hheads lead hlead rest) rfl rfl nofun nofun ?_
    rw [List.length_append, List.length_cons]
    omega
  · have hlength := congrArg List.length (htext [])
    simp only [List.append_nil, List.length_cons, List.length_append, List.length_nil] at hlength
    obtain ⟨k, rfl⟩ : ∃ m, k = m + 1 := ⟨k - 1, by omega⟩
    refine .here ?_
    rw [Cursor.on_lexeme (hheads lead hlead rest)]
    exact .here (.bind (.pass (hheads lead hlead rest) rfl)
      (.bind (.elements hnodes (by omega)) (.pure _)))

/-- The name of an origin with items between angle brackets behind it is an operand. -/
theorem Operand.arguments {w : String} (hw : isTypeName w = true) (hne : ts ≠ [])
    (hnodes : List.Forall₂ Item ts nodes) :
    Operand (w ++ "<" ++ joinWith ", " ts ++ ">") (.reference w [] (some nodes)) := by
  have hword := isWord_of_isTypeName hw
  obtain ⟨hopens, hstarts, hintrinsic⟩ := opens_of_isTypeName hw
  have hedged : Edged (w ++ "<" ++ joinWith ", " ts ++ ">") := by
    rw [String.append_assoc, String.append_assoc]
    refine edged_append (edged_of_isWord hword).first ?_
    rw [← String.append_assoc, String.toList_append]
    exact any_getLast?_append rfl
  have htext (rest : List Char) : (w ++ "<" ++ joinWith ", " ts ++ ">").toList ++ rest =
      w.toList ++ '<' :: ((joinWith ", " ts).toList ++ '>' :: rest) := by
    simp
  have hheads (lead : List Char) (hlead : lead ∈ leads) (rest : List Char) :
      Heads (lead ++ ((w ++ "<" ++ joinWith ", " ts ++ ">").toList ++ rest)) (.word w false)
        ('<' :: ((joinWith ", " ts).toList ++ '>' :: rest)) :=
    hedged.heads hlead (htext rest ▸ heads_word hword rfl)
  have hless (rest : List Char) := heads_less_items hne hnodes ('>' :: rest)
  refine ⟨hedged, nofun, fun lead hlead rest hrest ↦ ?_, fun lead hlead rest hrest size k hk ↦ ?_⟩
  · refine begins_of_lexeme (hheads lead hlead rest) hopens hstarts ?_
      (fun _ _ _ ↦ ⟨.less, List.mem_cons_self, _, hless rest⟩) ?_
    · rintro e ⟨⟩
      exact hintrinsic rfl
    · rw [List.length_cons, List.length_append, List.length_cons]
      omega
  · have hlength := congrArg List.length (htext [])
    simp only [List.append_nil, List.length_cons, List.length_append, List.length_nil] at hlength
    obtain ⟨k, rfl⟩ : ∃ m, k = m + 1 := ⟨k - 1, by omega⟩
    have hhead := hheads lead hlead rest
    obtain ⟨hreserved, hown⟩ := notMem_of_isTypeName hw
    have hdot : (Cursor.on size ('<' :: ((joinWith ", " ts).toList ++ '>' :: rest))).isSign .dot =
        false := by
      rw [Cursor.on_isSign (hless rest)]
      rfl
    have hsome : (some nodes).any List.isEmpty = false := by
      cases hnodes with
      | nil => exact absurd rfl hne
      | cons _ _ => rfl
    refine .bareType_word hhead (.wordType_reference hhead (hless rest) nofun hown ?_
      (.reference (.dottedName hhead hdot)
        (.typeArguments?_some (hless rest) (.typeArguments hnodes (by omega))) hsome))
    rintro rfl
    exact absurd (by decide) hreserved

end Lists

/-! ### Unions -/

section Unions

variable {size k : Nat} {t : String} {node : Node} {ts : List String} {nodes : List Node}
  {lead rest cs : List Char}

/-- Behind a member of a union there is a bar or what closes the union. -/
theorem Closes.behind_members (h : Closes rest) (ts : List String) :
    Continues (trailing " | " ts ++ rest) := by
  cases ts with
  | nil => exact .inl h
  | cons t ts => exact .inr ⟨_, rfl⟩

/-- A step that reads one operand behind a bar, and none at the end, reads all of them. -/
theorem Reads.repeatFrom {step : List Node → Reader (Option (List Node))} (hrest : Closes rest)
    (hmore : ∀ {t node}, Operand t node → t.toList.length ≤ k → ∀ parts rest, Continues rest →
      Reads size (step parts) (some (node :: parts)) (" | ".toList ++ (t.toList ++ rest)) rest)
    (hdone : ∀ parts, Reads size (step parts) none rest rest)
    (hnodes : List.Forall₂ Operand ts nodes) (hlength : ∀ u ∈ ts, u.toList.length ≤ k) :
    ∀ parts n, ts.length < n → Reads size (Reader.repeatFrom step n parts) (nodes.reverse ++ parts)
      (trailing " | " ts ++ rest) rest := by
  induction hnodes with
  | nil =>
    intro parts n hn
    obtain ⟨n, rfl⟩ : ∃ m, n = m + 1 := ⟨n - 1, by omega⟩
    exact .bind (hdone parts) (.pure _)
  | @cons t node ts nodes ht hts ih =>
    intro parts n hn
    obtain ⟨n, rfl⟩ : ∃ m, n = m + 1 := ⟨n - 1, by omega⟩
    obtain ⟨htlength, htslength⟩ := List.forall_mem_cons.mp hlength
    have hnext := ih htslength (node :: parts) n (Nat.lt_of_succ_lt_succ hn)
    rw [trailing_cons, List.append_assoc, List.append_assoc, List.reverse_cons, List.append_assoc]
    exact .bind (hmore ht htlength parts _ (hrest.behind_members ts)) hnext

/-- An operand is read as an intersection of its own. -/
theorem Operand.intersection (h : Operand t node) (ht : t.toList.length ≤ k) (hlead : lead ∈ leads)
    (hrest : Continues rest) :
    Reads size (Reader.intersection (.level k)) node (lead ++ (t.toList ++ rest)) rest := by
  obtain ⟨l, ds, hopens, -, -⟩ := (h.begins lead hlead rest hrest).opens
  exact .intersection hopens (h.reads lead hlead rest hrest size k ht) hrest.ends

/-- Operands with bars between them are read as the members of a union. -/
theorem Reads.union_members {u : String} {node' : Node} (hlead : lead ∈ leads) (hrest : Closes rest)
    (ht : Operand t node) (htlength : t.toList.length ≤ k)
    (hnodes : List.Forall₂ Operand (u :: ts) (node' :: nodes))
    (hlength : ∀ v ∈ u :: ts, v.toList.length ≤ k) :
    Reads size (Reader.union (.level k)) (.union (node :: node' :: nodes))
      (lead ++ (t.toList ++ (trailing " | " (u :: ts) ++ rest))) rest := by
  have hcontinues := hrest.behind_members (u :: ts)
  have hbar (cs : List Char) : (Cursor.on size (' ' :: '|' :: ' ' :: cs)).isSign .bar = true := by
    rw [Cursor.on_isSign (heads_bar cs)]
    rfl
  obtain ⟨l, ds, hopens, -, -⟩ := (ht.begins lead hlead _ hcontinues).opens
  have hjoined : Reads size (Reader.joined (.level k) .bar (Reader.intersection (.level k)))
      (.inr (node :: node' :: nodes)) (lead ++ (t.toList ++ (trailing " | " (u :: ts) ++ rest)))
      rest := by
    refine .bind (.optional_false (hopens.isSign_false (by decide)))
      (.bind (ht.intersection htlength hlead hcontinues) (.here ?_))
    rw [if_pos (by rw [Bool.false_or]; exact hbar _)]
    -- the members are gathered last to first
    have hlist : node :: node' :: nodes = ((node' :: nodes).reverse ++ [node]).reverse := by simp
    rw [hlist]
    refine .bind (.here (.repeatFrom (k := k) hrest ?_ ?_ hnodes hlength [node] _ ?_)) (.pure _)
    · intro v node hv hvlength parts rest hrest
      have hspace : [' '] ∈ leads := by decide
      obtain ⟨l, ds, hopens, -, -⟩ := (hv.begins [' '] hspace rest hrest).opens
      refine .bind (.optional_true (hbar _) (heads_bar _) rfl) (.bind (.of_size fun hsize ↦
        .here (.bind (.require ?_) (hv.intersection hvlength hspace hrest))) (.pure _))
      have hfunction : Reader.opensFunction (.level k) (.on size ([' '] ++ (v.toList ++ rest))) =
          false := hopens.opensFunction_false hsize
      exact congrArg (!·) hfunction
    · exact fun parts ↦ .bind (.optional_false (hrest.isSign_bar size)) (.pure _)
    · have hrest' : (Cursor.on size (trailing " | " (u :: ts) ++ rest)).rest =
          ' ' :: (u.toList ++ trailing " | " ts ++ rest) :=
        Cursor.on_rest (heads_bar _)
      have hlong := length_le_trailing " | " (by decide) ts
      rw [hrest']
      simp only [List.length_cons, List.length_append]
      omega
  exact .bind hjoined (.pure _)

/-- Two operands or more with bars between them are an item, a union. -/
theorem Item.union (hlength : 2 ≤ ts.length) (hnodes : List.Forall₂ Operand ts nodes) :
    Item (joinWith " | " ts) (.union nodes) := by
  have hedged : Edged (joinWith " | " ts) := by
    refine edged_joinWith ?_ (hnodes.imp fun _ _ h ↦ h.item)
    rintro rfl
    cases hlength
  -- the first member is read on its own, the others with the bars in front of them
  cases hnodes with
  | nil => cases hlength
  | @cons t node ts nodes ht hnodes =>
  cases hnodes with
  | nil => exact absurd hlength (by simp)
  | @cons u node' us nodes hu hus =>
  have htext (rest : List Char) : (joinWith " | " (t :: u :: us)).toList ++ rest =
      t.toList ++ (trailing " | " (u :: us) ++ rest) := by
    rw [toList_joinWith_cons, List.append_assoc]
  refine ⟨hedged, nofun, fun lead hlead rest hrest ↦ ?_, fun lead hlead rest hrest size k hk ↦ ?_⟩
  · rw [htext]
    refine (ht.begins lead hlead _ (hrest.behind_members _)).mono ?_
    rw [List.length_append]
    omega
  · rw [htext]
    have hbound : ∀ v ∈ t :: u :: us, v.toList.length ≤ k :=
      fun v hv ↦ Nat.le_trans (length_le_joinWith " | " hv) hk
    obtain ⟨htlength, huslength⟩ := List.forall_mem_cons.mp hbound
    exact .union_members hlead hrest ht htlength (.cons hu hus) huslength

end Unions

end TypeHints.Expression
