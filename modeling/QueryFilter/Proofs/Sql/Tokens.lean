/-
Statements in tokens.

A statement is a row of quoted runs, double colons, placeholders and single characters. `Token.lex` cuts it up
from left to right, each time taking the longest token there is; `Token.Spells` says the same without a
procedure, by what may stand behind each token. There is one way to read a text (`Token.spells_iff`), and
nothing of the text is lost (`Token.Spells.chars_eq`).
-/
import Mathlib.Data.List.TakeWhile
import QueryFilter.Proofs.Sql.Template

namespace QueryFilter

/-- A token of a statement; a quoted run that is not closed goes on to the end. -/
inductive Token where
  | quoted (quote : Char) (body : List Char)
  | unclosed (quote : Char) (body : List Char)
  | doubleColon
  | placeholder (name : String)
  | other (c : Char)
  deriving DecidableEq, Repr

namespace Token

open Placeholder (isStart isPart nameEnds IsName)

/-- The characters of a token. -/
def chars : Token → List Char
  | quoted quote body => quote :: (body ++ [quote])
  | unclosed quote body => quote :: body
  | doubleColon => [':', ':']
  | placeholder name => ':' :: name.toList
  | other c => [c]

/-- The token that begins with a character, and what is left behind it. -/
def next (c : Char) (rest : List Char) : Token × List Char :=
  if c = '\'' ∨ c = '"' then
    match rest.dropWhile (· ≠ c) with
    | [] => (unclosed c rest, [])
    | _ :: after => (quoted c (rest.takeWhile (· ≠ c)), after)
  else if c = ':' then
    if rest.head? = some ':' then (doubleColon, rest.tail)
    else if rest.head?.any isStart then
      (placeholder (String.ofList (rest.takeWhile isPart)), rest.dropWhile isPart)
    else (other c, rest)
  else (other c, rest)

/-- A text that begins with a token, with what is left behind it. A quoted run ends with the first quote like
its own, a name ends where no name goes on, and a colon stands for itself only where neither a colon nor a
name follows. -/
inductive Leads : List Char → Token → List Char → Prop where
  | quoted {quote : Char} {body : List Char} (opens : quote = '\'' ∨ quote = '"') (inside : quote ∉ body)
    (after : List Char) : Leads (quote :: (body ++ quote :: after)) (.quoted quote body) after
  | unclosed {quote : Char} {body : List Char} (opens : quote = '\'' ∨ quote = '"') (inside : quote ∉ body) :
    Leads (quote :: body) (.unclosed quote body) []
  | doubleColon (after : List Char) : Leads (':' :: ':' :: after) .doubleColon after
  | placeholder {name : String} {after : List Char} (isName : IsName name) (ends : nameEnds after = true) :
    Leads (':' :: (name.toList ++ after)) (.placeholder name) after
  | colon {after : List Char} (single : after.head? ≠ some ':') (unnamed : after.head?.any isStart = false) :
    Leads (':' :: after) (.other ':') after
  | other {c : Char} (plain : ¬(c = '\'' ∨ c = '"')) (apart : c ≠ ':') (after : List Char) :
    Leads (c :: after) (.other c) after

theorem nameEnds_dropWhile (text : List Char) : nameEnds (text.dropWhile isPart) = true := by
  induction text with
  | nil => rfl
  | cons c rest ih =>
    rw [List.dropWhile_cons]
    split
    · exact ih
    · rename_i other
      simpa [nameEnds] using other

theorem isName_takeWhile {text : List Char} (starts : text.head?.any isStart = true) :
    IsName (String.ofList (text.takeWhile isPart)) := by
  cases text with
  | nil => cases starts
  | cons first rest =>
    have start : isStart first = true := by simpa using starts
    have part : isPart first = true := by simp [isPart, start]
    refine ⟨first, rest.takeWhile isPart, ?_, start, List.all_takeWhile⟩
    rw [String.toList_ofList, List.takeWhile_cons_of_pos part]

theorem not_mem_takeWhile_ne (quote : Char) (text : List Char) : quote ∉ text.takeWhile (· ≠ quote) := by
  intro mem
  simpa using List.mem_takeWhile_imp mem

/-- A text begins with its next token. -/
theorem leads_next (c : Char) (rest : List Char) : Leads (c :: rest) (next c rest).1 (next c rest).2 := by
  unfold next
  split
  · rename_i opens
    have whole := List.takeWhile_append_dropWhile (p := fun d : Char => decide (d ≠ c)) (l := rest)
    have inside := not_mem_takeWhile_ne c rest
    split
    · rename_i none
      rw [none, List.append_nil] at whole
      rw [whole] at inside
      exact .unclosed opens inside
    · rename_i closing after found
      have same : closing = c := by
        have stops := List.head?_dropWhile_not (p := fun d : Char => decide (d ≠ c)) (l := rest)
        rw [found] at stops
        simpa using stops
      rw [found, same] at whole
      have leads := Leads.quoted opens inside after
      rwa [whole] at leads
  · rename_i plain
    split
    · rename_i colon
      subst colon
      split
      · rename_i double
        obtain ⟨after, rfl⟩ := List.head?_eq_some_iff.1 double
        exact .doubleColon after
      · rename_i single
        split
        · rename_i starts
          have leads := Leads.placeholder (isName_takeWhile starts) (nameEnds_dropWhile rest)
          rwa [String.toList_ofList, List.takeWhile_append_dropWhile] at leads
        · rename_i unnamed
          exact .colon single (by simpa using unnamed)
    · rename_i apart
      exact .other plain apart rest

theorem Leads.chars_append {text after : List Char} {token : Token} (leads : Leads text token after) :
    token.chars ++ after = text := by
  cases leads <;> simp [chars]

theorem length_next_lt (c : Char) (rest : List Char) : (next c rest).2.length < (c :: rest).length := by
  rw [← (leads_next c rest).chars_append, List.length_append]
  have some : 0 < (next c rest).1.chars.length := by
    cases (next c rest).1 <;> simp [chars]
  omega

/-- The tokens of a text. -/
def lex : List Char → List Token
  | [] => []
  | c :: rest => (next c rest).1 :: lex (next c rest).2
termination_by text => text.length
decreasing_by exact length_next_lt c rest

/-- A text that is a row of tokens, each the longest that can be read where it begins. -/
inductive Spells : List Char → List Token → Prop where
  | nil : Spells [] []
  | cons {text after : List Char} {token : Token} {tokens : List Token} (first : Leads text token after)
    (others : Spells after tokens) : Spells text (token :: tokens)

theorem spells_lex (text : List Char) : Spells text (lex text) := by
  fun_induction lex text with
  | case1 => exact .nil
  | case2 c rest ih => exact .cons (leads_next c rest) ih

theorem ne_of_inside {quote : Char} {body : List Char} (inside : quote ∉ body) :
    ∀ c ∈ body, decide (c ≠ quote) = true := by
  intro c mem
  simpa using fun same : c = quote => inside (same ▸ mem)

theorem takeWhile_ne_append {quote : Char} {body : List Char} (inside : quote ∉ body) (after : List Char) :
    (body ++ quote :: after).takeWhile (· ≠ quote) = body := by
  rw [List.takeWhile_append_of_pos (ne_of_inside inside)]
  simp

theorem dropWhile_ne_append {quote : Char} {body : List Char} (inside : quote ∉ body) (after : List Char) :
    (body ++ quote :: after).dropWhile (· ≠ quote) = quote :: after := by
  rw [List.dropWhile_append_of_pos (ne_of_inside inside)]
  simp

/-- There is one token a text begins with. -/
theorem Leads.next_eq {text after : List Char} {token : Token} (leads : Leads text token after) :
    ∃ c rest, text = c :: rest ∧ next c rest = (token, after) := by
  cases leads with
  | @quoted quote body opens inside =>
    refine ⟨quote, _, rfl, ?_⟩
    simp only [next, if_pos opens, takeWhile_ne_append inside, dropWhile_ne_append inside]
  | @unclosed quote body opens inside =>
    have others : body.dropWhile (· ≠ quote) = [] := List.dropWhile_eq_nil_iff.2 (ne_of_inside inside)
    refine ⟨quote, body, rfl, ?_⟩
    simp only [next, if_pos opens, others]
  | doubleColon => exact ⟨':', ':' :: after, rfl, rfl⟩
  | @placeholder name _ isName ends =>
    obtain ⟨first, rest, spelled, start, parts⟩ := isName
    have part : ∀ c ∈ name.toList, isPart c = true := by
      rw [spelled]
      exact List.forall_mem_cons.2 ⟨by simp [isPart, start], List.all_eq_true.1 parts⟩
    have stops : after.takeWhile isPart = [] ∧ after.dropWhile isPart = after := by
      cases after with
      | nil => exact ⟨rfl, rfl⟩
      | cons c _ =>
        have other : isPart c = false := by simpa [nameEnds] using ends
        simp [other]
    refine ⟨':', _, rfl, ?_⟩
    have single : (name.toList ++ after).head? ≠ some ':' := by
      simpa [spelled] using Placeholder.colon_ne_of_isStart start
    have starts : (name.toList ++ after).head?.any isStart = true := by simpa [spelled] using start
    simp only [next, starts, if_neg single, if_true, List.takeWhile_append_of_pos part,
      List.dropWhile_append_of_pos part, stops, List.append_nil, String.ofList_toList]
    rfl
  | colon single unnamed =>
    refine ⟨':', after, rfl, ?_⟩
    simp only [next, if_neg single, unnamed]
    rfl
  | @other c plain apart =>
    refine ⟨c, after, rfl, ?_⟩
    simp only [next, if_neg plain, if_neg apart]

theorem Spells.lex_eq {text : List Char} {tokens : List Token} (spells : Spells text tokens) :
    lex text = tokens := by
  induction spells with
  | nil => rw [lex]
  | cons first _ ih =>
    obtain ⟨c, rest, rfl, read⟩ := first.next_eq
    rw [lex, read, ih]

/-- A text is spelled by its tokens and by no others. -/
theorem spells_iff {text : List Char} {tokens : List Token} : Spells text tokens ↔ tokens = lex text :=
  ⟨fun spells => spells.lex_eq.symm, fun same => same ▸ spells_lex text⟩

/-- Nothing of a text is lost between its tokens. -/
theorem Spells.chars_eq {text : List Char} {tokens : List Token} (spells : Spells text tokens) :
    tokens.flatMap chars = text := by
  induction spells with
  | nil => rfl
  | cons first _ ih => rw [List.flatMap_cons, ih, first.chars_append]

end Token

end QueryFilter
