/-
Quoted identifiers in a statement.

Whatever an identifier is made from, every quote in it is written twice, so behind it the scanner is out of quotes
and has read no placeholder. It stays as it is in front of whatever follows, and that is rendered as it would be on
its own (`Identifier.quote_opaque`). Reading it back, without the quotes around it and with one quote for two,
accepts just what quoting writes (`Identifier.unquote?_eq_some_iff`).
-/
import QueryFilter.Proofs.Sql.Rendering

namespace QueryFilter

/-! ## A text that leaves nothing open -/

/-- The positional form with a text in front of it; its slots keep their numbers. -/
def Positional.behind (text : String) (p : Positional) : Positional :=
  { p with sql := text ++ p.sql }

/-- Behind a text that leaves nothing open, a statement is rendered as it is on its own. -/
theorem Statement.positional_append_of_inert {text : String} (inert : Inert text) (rest : String)
    (parameters : Parameters) :
    positional ⟨text ++ rest, parameters⟩ = (positional ⟨rest, parameters⟩).map (Positional.behind text) := by
  have scanned := Placeholder.scan_inert parameters .empty inert
  have whole : positional ⟨text ++ rest, parameters⟩ =
      Placeholder.complete parameters ⟨Positional.empty.write text, .plain⟩ rest.toList := by
    rw [← Placeholder.complete_append scanned, ← String.toList_append]
    rfl
  rw [whole, Token.complete_eq_foldlM (Token.spells_lex _), Token.foldlM_write, positional_eq]
  simp only [tokens, fragments, slots]
  cases Token.unbound? parameters (Token.lex rest.toList) with
  | some name => rfl
  | none => simp [Except.map, Positional.behind, Positional.write, Positional.empty]

/-! ## Reading a quoted identifier back -/

namespace Identifier

/-- The identifier that a text quotes, if the text is one in quotes. -/
def unquote? (text : String) : Option String :=
  match text.toList with
  | '"' :: rest => if rest.getLast? = some '"' then (halveQuotes? rest.dropLast).map String.ofList else none
  | _ => none

theorem eq_doubleQuotes_of_halveQuotes? {cs name : List Char} (halved : halveQuotes? cs = some name) :
    cs = doubleQuotes name := by
  fun_induction halveQuotes? cs generalizing name with
  | case1 =>
    cases halved
    rfl
  | case2 rest ih =>
    obtain ⟨others, read, rfl⟩ := Option.map_eq_some_iff.1 halved
    rw [ih read]
    rfl
  | case3 => cases halved
  | case4 c rest _ plain ih =>
    obtain ⟨others, read, rfl⟩ := Option.map_eq_some_iff.1 halved
    rw [ih read, doubleQuotes, if_neg plain]

theorem toList_quote (name : String) : (quote name).toList = '"' :: (doubleQuotes name.toList ++ ['"']) := by
  simp [quote]

/-- What can be read back is what quoting writes. -/
theorem unquote?_eq_some_iff {text name : String} : unquote? text = some name ↔ text = quote name := by
  constructor
  · intro read
    unfold unquote? at read
    split at read
    · rename_i rest opened
      split at read
      · rename_i closed
        obtain ⟨halved, found, rfl⟩ := Option.map_eq_some_iff.1 read
        obtain ⟨inside, rfl⟩ := List.getLast?_eq_some_iff.1 closed
        rw [List.dropLast_concat] at found
        rw [← String.toList_inj, opened, toList_quote, String.toList_ofList, ← eq_doubleQuotes_of_halveQuotes? found]
      · cases read
    · cases read
  · rintro rfl
    unfold unquote?
    simp only [toList_quote, List.getLast?_concat, List.dropLast_concat, halveQuotes?_doubleQuotes, if_true,
      Option.map_some, String.ofList_toList]

theorem quote_injective {name other : String} (same : quote name = quote other) : name = other := by
  have read := unquote?_eq_some_iff.2 same
  rw [unquote?_eq_some_iff.2 rfl] at read
  exact Option.some.inj read

/-- **A quoted identifier is opaque.** With a text behind it, it is rendered as itself and then what the text is
rendered as alone, with the same values, and this fails just as the text alone does. The identifier can be read
back from it and from no other text, and no other identifier is quoted alike. -/
theorem quote_opaque (name text : String) (parameters : Parameters) :
    (∀ sql values, Statement.positional ⟨quote name ++ text, parameters⟩ = .ok ⟨sql, values⟩ ↔
        ∃ rest, sql = quote name ++ rest ∧ Statement.positional ⟨text, parameters⟩ = .ok ⟨rest, values⟩)
      ∧ (∀ failure, Statement.positional ⟨quote name ++ text, parameters⟩ = .error failure ↔
        Statement.positional ⟨text, parameters⟩ = .error failure)
      ∧ (∀ quoted, unquote? quoted = some name ↔ quoted = quote name)
      ∧ ∀ other, quote other = quote name ↔ other = name := by
  have rendered := Statement.positional_append_of_inert (inert_quote name) text parameters
  refine ⟨fun sql values => ?_, fun failure => ?_, fun quoted => unquote?_eq_some_iff, fun other => ?_⟩
  · rw [rendered]
    cases Statement.positional ⟨text, parameters⟩ with
    | error failure => simp [Except.map]
    | ok alone =>
      constructor
      · intro same
        cases same
        exact ⟨alone.sql, rfl, rfl⟩
      · rintro ⟨rest, rfl, same⟩
        cases same
        rfl
  · rw [rendered]
    cases Statement.positional ⟨text, parameters⟩ <;> simp [Except.map]
  · exact ⟨quote_injective, congrArg quote⟩

/-- Neither the quote in the name nor the apostrophe hides the placeholder behind it, and the one in it is none. -/
example : Statement.positional ⟨quote "x\":p'" ++ " = :p", Parameters.ofList [("p", .integer 7)]⟩ =
    .ok ⟨"\"x\"\":p'\" = $1", [.integer 7]⟩ := by rfl

end Identifier

end QueryFilter
