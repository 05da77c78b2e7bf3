import TypeHints.Expression.Grammar
import TypeHints.Proofs.Actions
import TypeHints.Proofs.Tokens

/-!
# Reading operands

A type without operators, an operand, passes through every layer of the grammar unchanged if what
follows it is a sign that ends a type. Three predicates on texts say what has to be known for that:

* `Reads`: what a reader gives at the beginning of a text and where it stops;
* `Opens`: the text begins like an operand. Some words are left out, since they are operators of
  types, and a word is followed by the end of a type or by arguments;
* `Ends`: the text goes on with a sign that ends a type, of which there are five (`endSigns`).

The layers are those of suffixes, operators, intersections, unions and choices. Each of them looks
for a sign or a word of its own in front of the operand or behind it and finds none, so that it
gives what the layer below gives (`Reads.suffixedType`, `Reads.operatorType`, `Reads.joined_inl`).
From the reading of the bare operand, `Reads.type` gets to the reading of it as a whole type, and
`Reads.union` does so for the members of a union. Below the layers are the operands that are words:
names with and without arguments, keywords and the values that are written as words.

In the end a text is parsed as the type that it is read as, up to the semicolon that the parser puts
behind it (`parse?_of_union`).
-/

namespace TypeHints.Expression

open Attempt Lexing

/-! ### What a reader reads -/

/-- In a text of the given size, the reader at the first token of `cs` gives `x` and stops at the first
token of `rest`. -/
def Reads {α : Type} (size : Nat) (r : Reader α) (x : α) (cs rest : List Char) : Prop :=
  cs.length ≤ size → rest.length ≤ cs.length ∧ r (.on size cs) = (.ok x, .on size rest)

namespace Reads

variable {α β : Type} {size : Nat} {cs ds es : List Char} {x : α} {y : β} {l : Lexeme}

protected theorem pure (x : α) : Reads size (pure x) x cs cs := fun _ ↦ ⟨Nat.le_refl _, rfl⟩

/-- Readers one behind the other read one behind the other. -/
protected theorem bind {r : Reader α} {f : α → Reader β} (hr : Reads size r x cs ds)
    (hf : Reads size (f x) y ds es) : Reads size (r >>= f) y cs es := by
  intro hsize
  obtain ⟨hle, hr⟩ := hr hsize
  obtain ⟨hle', hf⟩ := hf (Nat.le_trans hle hsize)
  exact ⟨Nat.le_trans hle' hle, by rw [bind_apply_ok hr, hf]⟩

/-- While reading, the rest may be taken to be no longer than the whole text. -/
theorem of_size {r : Reader α} (h : cs.length ≤ size → Reads size r x cs ds) :
    Reads size r x cs ds :=
  fun hsize ↦ h hsize hsize

/-- A reader may look at where it stands. -/
protected theorem here {f : Cursor → Reader β} (hf : Reads size (f (.on size cs)) y cs es) :
    Reads size (Reader.here >>= f) y cs es := hf

/-- A condition that holds is passed without reading on. -/
protected theorem require {b : Bool} (hb : b = true) : Reads size (Reader.require b) () cs cs := by
  rw [hb]
  exact .pure ()

/-- Any token that there is can be passed as a name. -/
theorem passName (h : Heads cs l ds) (hl : l ≠ .unknown) : Reads size Reader.passName () cs ds := by
  refine fun hsize ↦ ⟨Nat.le_of_lt h.shorter, ?_⟩
  have hknown : decide ((Cursor.on size cs).lexeme ≠ .unknown) = true := by
    rw [Cursor.on_lexeme h]
    exact decide_eq_true hl
  show (Reader.require (decide ((Cursor.on size cs).lexeme ≠ .unknown)) >>= fun _ ↦
    Attempt.modify Cursor.next) (Cursor.on size cs) = _
  rw [hknown]
  show (_, (Cursor.on size cs).next) = _
  rw [Cursor.on_next h hsize]

/-- A lexeme that may be passed over as it is: known, and no keyword spelled with escapes. -/
def passable : Lexeme → Bool
  | .word _ escaped => !escaped
  | .unknown => false
  | _ => true

/-- A token that may be passed is passed. -/
protected theorem pass (h : Heads cs l ds) (hl : passable l = true) :
    Reads size Reader.pass () cs ds := by
  have hplain : (Cursor.on size cs).isEscapedKeyword = false := by
    rw [Cursor.isEscapedKeyword, Cursor.on_lexeme h]
    cases l <;> simp_all [passable]
  refine .here (.bind (.require (by rw [hplain]; rfl)) (passName h ?_))
  rintro rfl
  cases hl

/-- A token that is expected is passed if it is there. -/
protected theorem expect {p : Cursor → Bool} (hp : p (.on size cs) = true) (h : Heads cs l ds)
    (hl : passable l = true) : Reads size (Reader.expect p) () cs ds :=
  .here (.bind (.require hp) (.pass h hl))

/-- A token that may be there is passed if it is there. -/
theorem optional_true {p : Cursor → Bool} (hp : p (.on size cs) = true) (h : Heads cs l ds)
    (hl : passable l = true) : Reads size (Reader.optional p) true cs ds := by
  refine .here ?_
  rw [if_pos hp]
  exact .bind (.pass h hl) (.pure true)

/-- A token that may be there and is not leaves the reader where it stands. -/
theorem optional_false {p : Cursor → Bool} (hp : p (.on size cs) = false) :
    Reads size (Reader.optional p) false cs cs := by
  refine .here ?_
  rw [if_neg (by rw [hp]; exact Bool.false_ne_true)]
  exact .pure false

/-- Outside of everything, a mode that is the same there changes nothing. -/
theorem within {f : Mode → Mode} {r : Reader α} (hf : f .plain = .plain)
    (hr : Reads size r x cs ds) : Reads size (Reader.within f r) x cs ds := by
  have hsame (cs : List Char) : ({ Cursor.on size cs with mode := .plain } : Cursor) = .on size cs := rfl
  have hstart : Reads size (Attempt.modify fun c ↦ { c with mode := f c.mode }) () cs cs := by
    refine fun _ ↦ ⟨Nat.le_refl _, ?_⟩
    rw [modify_apply, Cursor.on_mode, hf, hsame]
  have hend : Reads size (Attempt.modify fun c ↦ { c with mode := (Cursor.on size cs).mode }) () ds
      ds := by
    refine fun _ ↦ ⟨Nat.le_refl _, ?_⟩
    rw [modify_apply, Cursor.on_mode, hsame]
  exact .here (.bind hstart (.bind hr (.bind hend (.pure x))))

/-- A reader that is repeated declines at once. -/
theorem repeating_none {σ : Type} {step : σ → Reader (Option σ)} {s : σ}
    (h : Reads size (step s) none cs cs) : Reads size (Reader.repeating step s) s cs cs :=
  .here (.bind h (.pure s))

end Reads

/-! ### Operands -/

/-- The signs that end a type. -/
def endSigns : List Sign := [.bar, .comma, .closeBracket, .greater, .semicolon]

/-- A text begins with a sign that ends a type. -/
def Ends (cs : List Char) : Prop := ∃ s ∈ endSigns, ∃ ds, Heads cs (.sign s) ds

/-- A lexeme that an operand may begin with. -/
def opensOperand : Lexeme → Bool
  | .word w _ => !(["keyof", "unique", "readonly", "infer", "new"].contains w)
  | .string _ | .number _ | .bigint _ | .sign .openBracket | .sign .minus => true
  | _ => false

/-- A text begins like an operand: a word of the kind is followed by the end of a type or by
arguments. -/
structure Opens (cs : List Char) (l : Lexeme) (ds : List Char) : Prop where
  heads : Heads cs l ds
  opens : opensOperand l = true
  followed : ∀ w e, l = .word w e → ∃ s ∈ .less :: endSigns, ∃ es, Heads ds (.sign s) es

section Layers

variable {size : Nat} {R : Nested} {cs ds es : List Char} {l : Lexeme} {node : Node}

/-- No sign but those that end a type ends it. -/
theorem Ends.isSign_false (h : Ends cs) {s : Sign} (hs : s ∉ endSigns) :
    (Cursor.on size cs).isSign s = false := by
  obtain ⟨s', hs', ds, hheads⟩ := h
  rw [Cursor.isSign, Cursor.on_lexeme hheads]
  refine decide_eq_false ?_
  rintro ⟨⟩
  exact hs hs'

/-- No word ends a type. -/
theorem Ends.isWord_false (h : Ends cs) (w : String) : (Cursor.on size cs).isWord w = false := by
  obtain ⟨s, -, ds, hheads⟩ := h
  rw [Cursor.isWord, Cursor.word?, Cursor.on_lexeme hheads]
  rfl

/-- The sign that ends a type stands on the line of the type. -/
theorem Ends.afterLineEnd (h : Ends cs) : (Cursor.on size cs).afterLineEnd = false := by
  obtain ⟨s, -, ds, hheads⟩ := h
  exact Cursor.on_afterLineEnd hheads

/-- An operand has no suffix. -/
theorem Reads.suffixedType (h : Reads size (Reader.bareType R) node cs es) (hends : Ends es) :
    Reads size (Reader.suffixedType R) node cs es := by
  refine .here (.bind h (repeating_none (.here ?_)))
  simp only [hends.afterLineEnd, hends.isSign_false (s := .exclaim) (by decide),
    hends.isSign_false (s := .question) (by decide),
    hends.isSign_false (s := .openBracket) (by decide), Bool.false_eq_true, if_false]
  exact .pure none

/-- The only signs that operands begin with are the square bracket and the minus sign. -/
theorem Opens.isSign_false (h : Opens cs l ds) {s : Sign} (hs : s ∉ [Sign.openBracket, .minus]) :
    (Cursor.on size cs).isSign s = false := by
  rw [Cursor.isSign, Cursor.on_lexeme h.heads]
  refine decide_eq_false ?_
  rintro rfl
  have hopens := h.opens
  cases s <;> first | exact hs (by decide) | cases hopens

/-- No operator of types and no `new` stands in front of an operand. -/
theorem Opens.word_notMem (h : Opens cs l ds) {w : String}
    (hw : (Cursor.on size cs).word? = some w) :
    ["keyof", "unique", "readonly", "infer", "new"].contains w = false := by
  obtain ⟨e, rfl⟩ := (Cursor.on_word?_eq_some h.heads).mp hw
  simpa [opensOperand] using h.opens

/-- The words that operands do not begin with. -/
theorem Opens.isWord_false (h : Opens cs l ds) {w : String}
    (hw : ["keyof", "unique", "readonly", "infer", "new"].contains w = true) :
    (Cursor.on size cs).isWord w = false := by
  refine decide_eq_false fun hword ↦ ?_
  rw [h.word_notMem hword] at hw
  cases hw

/-- No operator of types is read in front of an operand. -/
theorem Opens.isWordIn_false (h : Opens cs l ds) :
    (Cursor.on size cs).isWordIn ["keyof", "unique", "readonly"] = false := by
  rw [Cursor.isWordIn, Option.any_eq_false]
  intro w hw
  have hnot := h.word_notMem hw
  simp only [List.contains_eq_mem, List.mem_cons, List.not_mem_nil, or_false, not_or,
    decide_eq_false_iff_not] at hnot ⊢
  exact ⟨hnot.1, hnot.2.1, hnot.2.2.1⟩

/-- Behind a word that is an operand there is no word. -/
theorem Opens.next_isWord_false (h : Opens cs l ds) (hsize : cs.length ≤ size) {v : String}
    (hv : (Cursor.on size cs).isWord v = true) (w : String) :
    (Cursor.on size cs).next.isWord w = false := by
  obtain ⟨e, rfl⟩ := (Cursor.on_word?_eq_some h.heads).mp (of_decide_eq_true hv)
  obtain ⟨s, -, es, hs⟩ := h.followed v e rfl
  rw [Cursor.on_next h.heads hsize, Cursor.isWord, Cursor.word?, Cursor.on_lexeme hs]
  rfl

/-- An operand is not taken for the type of a function: no parenthesis, no parameters in angle
brackets and no `new` stands in front of it. -/
theorem Opens.opensFunction_false (h : Opens cs l ds) (hsize : cs.length ≤ size) :
    Reader.opensFunction R (.on size cs) = false := by
  have habstract : ((Cursor.on size cs).isWord "abstract" && (Cursor.on size cs).next.isWord "new") =
      false := by
    cases hv : (Cursor.on size cs).isWord "abstract" with
    | false => rfl
    | true => exact h.next_isWord_false hsize hv "new"
  rw [Reader.opensFunction, Reader.opensParameters, h.isSign_false (by decide),
    h.isSign_false (by decide), h.isWord_false (by decide), habstract]
  rfl

/-- An operand is a type with no operators in front of it. -/
theorem Reads.operatorType (hopens : Opens cs l ds) (h : Reads size (Reader.bareType R) node cs es)
    (hends : Ends es) : Reads size (Reader.operatorType R) node cs es := by
  refine .here ?_
  -- neither an operator nor `infer` stands here, so that the suffixes are next
  rw [hopens.isWordIn_false, hopens.isWord_false (by decide)]
  exact Reads.within (f := fun m ↦ { m with withoutChoice := false }) rfl (h.suffixedType hends)

/-- Without the sign that joins parts, there is one part. -/
theorem Reads.joined_inl {s : Sign} {part : Reader Node}
    (hs : (Cursor.on size cs).isSign s = false) (h : Reads size part node cs es)
    (hes : (Cursor.on size es).isSign s = false) :
    Reads size (Reader.joined R s part) (.inl node) cs es := by
  refine .bind (optional_false hs) (.bind h (.here ?_))
  rw [hes]
  exact .pure _

/-- An operand is an intersection of its own. -/
theorem Reads.intersection (hopens : Opens cs l ds) (h : Reads size (Reader.bareType R) node cs es)
    (hends : Ends es) : Reads size (Reader.intersection R) node cs es :=
  .here (.bind (.joined_inl (hopens.isSign_false (by decide)) (h.operatorType hopens hends)
    (hends.isSign_false (by decide))) (.pure _))

/-- An operand is a union of its own, if no bar stands behind it. -/
theorem Reads.union (hopens : Opens cs l ds) (h : Reads size (Reader.bareType R) node cs es)
    (hends : Ends es) (hbar : (Cursor.on size es).isSign .bar = false) :
    Reads size (Reader.union R) node cs es :=
  .bind (.joined_inl (hopens.isSign_false (by decide)) (h.intersection hopens hends) hbar) (.pure _)

/-- What is read as a union is read as a type. -/
theorem Reads.type (hopens : Opens cs l ds) (h : Reads size (Reader.union R) node cs es)
    (hends : Ends es) : Reads size (Reader.type R) node cs es := by
  refine Reads.within (f := Mode.body false false) rfl (.of_size fun hsize ↦ .here (.here ?_))
  rw [hopens.opensFunction_false hsize]
  refine .bind h (.here ?_)
  rw [hends.isWord_false, Bool.and_false]
  exact .pure node

/-! ### Names and keywords -/

/-- None of some other signs ends a type. -/
theorem Ends.isSignIn_false (h : Ends cs) {ss : List Sign} (hss : ∀ s ∈ endSigns, s ∉ ss) :
    (Cursor.on size cs).isSignIn ss = false := by
  obtain ⟨s, hs, ds, hheads⟩ := h
  rw [Cursor.isSignIn, Cursor.on_lexeme hheads]
  simpa using hss s hs

/-- A name without a dot behind it has no members. -/
theorem Reads.dottedName {w : String} {e : Bool} (h : Heads cs (.word w e) ds)
    (hdot : (Cursor.on size ds).isSign .dot = false) :
    Reads size Reader.dottedName (w, []) cs ds := by
  refine .here ?_
  rw [Cursor.on_lexeme h]
  have hmembers : Reads size Reader.members [] ds ds :=
    .bind (repeating_none (.bind (optional_false hdot) (.pure none))) (.pure [])
  exact .bind (.pure w) (.bind (.passName h nofun) (.bind hmembers (.pure _)))

/-- No type arguments stand in front of the end of a type. -/
theorem Reads.typeArguments?_none (hends : Ends cs) :
    Reads size (Reader.typeArguments? R) none cs cs := by
  refine .here ?_
  rw [hends.isSignIn_false (by decide), Bool.and_false]
  exact .pure none

/-- Type arguments stand behind a single opening angle bracket. -/
theorem Reads.typeArguments?_some {args : List Node} (h : Heads cs (.sign .less) ds)
    (hargs : Reads size (Reader.typeArguments R) args ds es) :
    Reads size (Reader.typeArguments? R) (some args) cs es := by
  have hsplit : Reads size Reader.splitLess () cs cs := by
    refine fun _ ↦ ⟨Nat.le_refl _, ?_⟩
    rw [Reader.splitLess, modify_apply, Cursor.on_isSign h]
    rfl
  refine .here ?_
  rw [Cursor.on_afterLineEnd h, Cursor.isSignIn, Cursor.on_lexeme h]
  exact .bind hsplit (.bind (.pass h rfl) (.bind hargs (.pure _)))

/-- A name with type arguments, of which there is one at least. -/
theorem Reads.reference {root : String} {ms : List String} {args? : Option (List Node)}
    (hname : Reads size Reader.dottedName (root, ms) cs ds)
    (hargs : Reads size (Reader.typeArguments? R) args? ds es)
    (hne : args?.any List.isEmpty = false) :
    Reads size (Reader.reference R) (.reference root ms args?) cs es := by
  refine .bind hname (.bind hargs ?_)
  rw [hne]
  exact .pure _

/-- The words that are types of their own or begin a type of their own. -/
def ownWords : List String :=
  keywordTypes ++ ["void", "null", "true", "false", "this", "typeof", "import"]

/-- A word that no type of its own begins with is the root of a name, if a sign follows. -/
theorem Reads.wordType_reference {w : String} {e : Bool} {s : Sign} (h : Heads cs (.word w e) ds)
    (hs : Heads ds (.sign s) es) (hopen : s ≠ .openParen) (hw : w ∉ ownWords)
    {rest : List Char} (hfunction : w = "function" → rest = ds ∧ node = .reference w [] none)
    (hr : Reads size (Reader.reference R) node cs rest) :
    Reads size (Reader.wordType R w) node cs rest := by
  simp only [ownWords, List.mem_append, not_or, List.mem_cons, List.not_mem_nil, not_false_iff,
    and_true] at hw
  obtain ⟨hkeyword, hvoid, hnull, htrue, hfalse, hthis, htypeof, himport⟩ := hw
  refine .of_size fun hsize ↦ .here ?_
  have hnext : (Cursor.on size cs).next = .on size ds := Cursor.on_next h hsize
  have hword : (Cursor.on size ds).isAnyWord = false := by
    rw [Cursor.isAnyWord, Cursor.on_lexeme hs]
  have hparen : (Cursor.on size ds).isSign .openParen = false := by
    rw [Cursor.on_isSign hs]
    simpa using hopen
  simp only [List.contains_eq_mem, hkeyword, hvoid, hnull, htrue, hfalse, hthis, htypeof, himport,
    hnext, hword, hparen, Bool.and_false, Bool.false_and, decide_false, Bool.false_eq_true, if_false,
    Bool.or_false]
  split
  · rename_i heq
    obtain ⟨rfl, rfl⟩ := hfunction heq
    exact .bind (.passName h nofun) (.pure _)
  · exact hr

/-- A word in front of the end of a type is a name, reserved or not, unless it means a type of its
own. -/
theorem Reads.wordType_name {w : String} {e : Bool} (h : Heads cs (.word w e) es) (hends : Ends es)
    (hw : w ∉ ownWords) : Reads size (Reader.wordType R w) (.reference w [] none) cs es := by
  obtain ⟨s, hs, ds, hheads⟩ := id hends
  refine .wordType_reference h hheads ?_ hw (fun _ ↦ ⟨rfl, rfl⟩)
    (.reference (.dottedName h (hends.isSign_false (by decide))) (.typeArguments?_none hends) rfl)
  rintro rfl
  exact absurd hs (by decide)

/-- A keyword that is a type. -/
theorem Reads.wordType_keyword {w : String} {k : Keyword} (h : Heads cs (.word w false) es)
    (hends : Ends es) (hw : w ∈ keywordTypes) (hk : Keyword.ofWord? w = some k) :
    Reads size (Reader.wordType R w) (.keyword k) cs es := by
  refine .of_size fun hsize ↦ .here ?_
  simp only [List.contains_eq_mem, hw, decide_true, if_true, Cursor.on_next h hsize,
    hends.isSign_false (s := .dot) (by decide), Bool.false_eq_true, if_false, hk]
  exact .bind (.pass h rfl) (.pure _)

/-- The values that are written as words, by their words. -/
def wordValues : List (String × Literal) :=
  [("null", .null), ("true", .bool true), ("false", .bool false)]

/-- A word that is a value. -/
theorem Reads.wordType_value {w : String} {v : Literal} (h : Heads cs (.word w false) es)
    (hw : (w, v) ∈ wordValues) : Reads size (Reader.wordType R w) (.literal v) cs es := by
  have hkeyword : ∀ e ∈ wordValues, e.1 ∉ keywordTypes ∧ e.1 ≠ "void" := by decide
  have hnot := hkeyword _ hw
  refine .here ?_
  simp only [List.contains_eq_mem, hnot, decide_false, Bool.false_eq_true, if_false]
  simp only [wordValues, List.mem_cons, List.not_mem_nil, or_false, Prod.mk.injEq] at hw
  rcases hw with ⟨rfl, rfl⟩ | ⟨rfl, rfl⟩ | ⟨rfl, rfl⟩ <;> exact .bind (.pass h rfl) (.pure _)

end Layers

/-! ### Texts that are types -/

/-- The semicolon behind a text ends a type. -/
theorem ends_semicolon : Ends [';'] := ⟨.semicolon, by decide, [], heads_semicolon []⟩

/-- A text is parsed as the type that it is read as up to the semicolon behind it, unless it begins
with the word `intrinsic`. -/
theorem parse?_of_union {text ds : List Char} {l : Lexeme} {node : Node}
    (hopens : Opens (text ++ [';']) l ds) (hintrinsic : ∀ e, l ≠ .word "intrinsic" e)
    (h : Reads (text.length + 1) (Reader.union (.level (4 * text.length + 15))) node
      (text ++ [';']) [';']) : parse? text = some node := by
  have hlength : (text ++ [';']).length = text.length + 1 := by simp
  have hword : (Cursor.on (text.length + 1) (text ++ [';'])).isWord "intrinsic" = false := by
    refine decide_eq_false fun hw ↦ ?_
    obtain ⟨e, he⟩ := (Cursor.on_word?_eq_some hopens.heads).mp hw
    exact hintrinsic e he
  have hwhole : Reads (text.length + 1) (Reader.whole (.level (4 * text.length + 16))) node
      (text ++ [';']) [';'] := by
    refine .here ?_
    rw [hword, Bool.false_and]
    exact .type hopens h ends_semicolon
  obtain ⟨-, hread⟩ := hwhole (by simp)
  rw [parse?, Cursor.ofText_eq, hlength]
  simp only [run, hread]
  rw [if_pos]
  -- the semicolon follows at once, since the text is read up to it
  have hend := heads_semicolon []
  refine ⟨decide_eq_true (Cursor.on_lexeme hend), ?_, Cursor.on_rest hend, by simp⟩
  rw [Cursor.on_prior hend]
  rfl

end TypeHints.Expression
