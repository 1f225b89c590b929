/-
Rendering a statement token by token.

The scanner does to a text what its tokens do one by one (`Token.complete_eq_foldlM`): a placeholder gives way to
the slots of its value and every other token stays. What comes out is a row of fragments, whose slots are
numbered from one on, and the first placeholder without a value is the only thing that can go wrong
(`Statement.positional_eq_render`).
-/
import QueryFilter.Proofs.Sql.Tokens

namespace QueryFilter

/-- A fragment of a positional statement: a token that stays, a slot with its number and its value, the `NULL`
of an empty list, or the comma between neighbours in a list. -/
inductive Fragment where
  | kept (token : Token)
  | slot (number : Nat) (value : Value)
  | gap
  | comma
  deriving Repr

namespace Fragment

def text : Fragment → String
  | kept token => String.ofList token.chars
  | slot number _ => "$" ++ Nat.repr number
  | gap => "NULL"
  | comma => ", "

/-- The value of a slot and its number. -/
def slot? : Fragment → Option (Value × Nat)
  | slot number value => some (value, number)
  | _ => none

/-- Scalars as slots, numbered from a number on, and gaps. -/
def ofEntries : Nat → List (Option Value) → List Fragment
  | _, [] => []
  | n, some value :: entries => slot n value :: ofEntries (n + 1) entries
  | n, none :: entries => gap :: ofEntries n entries

end Fragment

/-- The fragments of a value, its slots numbered from a number on. -/
def Value.fragments (n : Nat) (value : Value) : List Fragment :=
  (Fragment.ofEntries n value.entries).intersperse .comma

namespace Token

open Placeholder

variable (parameters : Parameters)

/-- The name of a placeholder. -/
def name? : Token → Option String
  | placeholder name => some name
  | _ => none

/-- The first name among tokens that no value is bound to. -/
def unbound? (tokens : List Token) : Option String :=
  (tokens.filterMap name?).find? fun name => !parameters.contains name

/-- The values a token puts into slots. -/
def slots : Token → List Value
  | placeholder name => ((parameters.get? name).map Value.slots).getD []
  | _ => []

/-- What becomes of a token, its slots numbered from a number on. -/
def fragments (n : Nat) : Token → List Fragment
  | placeholder name => ((parameters.get? name).map (Value.fragments n)).getD []
  | token => [.kept token]

/-- What becomes of tokens, their slots numbered from a number on from left to right. -/
def fragmentsFrom : Nat → List Token → List Fragment
  | _, [] => []
  | n, token :: tokens =>
    token.fragments parameters n ++ fragmentsFrom (n + (token.slots parameters).length) tokens

/-- The statement written so far with one more token. -/
def write (written : Positional) : Token → Except Failure Positional
  | placeholder name =>
    match parameters.get? name with
    | some value => .ok (written.place value)
    | none => .error (.unboundParameter name)
  | token => .ok (written.write (String.ofList token.chars))

/-! ## The scanner and the tokens -/

variable {parameters}

theorem after_inside {quote : Char} {body : List Char} (inside : quote ∉ body) :
    (Mode.quoted quote).after body = .quoted quote := by
  induction body with
  | nil => rfl
  | cons c rest ih =>
    obtain ⟨other, others⟩ := not_or.1 (mt List.mem_cons.2 inside)
    change ((Mode.quoted quote).next c).after rest = _
    rw [Mode.next, if_neg (Ne.symm other)]
    exact ih others

theorem complete_inert (parameters : Parameters) {chars : List Char} (inert : Mode.plain.after chars = .plain)
    (written : Positional) (rest : List Char) :
    complete parameters ⟨written, .plain⟩ (chars ++ rest) =
      complete parameters ⟨written.write (String.ofList chars), .plain⟩ rest := by
  have text : Inert (String.ofList chars) := by simpa [Inert] using inert
  have scanned := scan_inert parameters written text
  rw [String.toList_ofList] at scanned
  exact complete_append scanned rest

/-- Where no name goes on, a name that has begun is resolved. -/
theorem complete_named (written : Positional) (reversed : List Char) {rest : List Char}
    (ends : nameEnds rest = true) :
    complete parameters ⟨written, .name reversed⟩ rest =
      (resolve parameters written reversed).bind fun written => complete parameters ⟨written, .plain⟩ rest := by
  cases rest with
  | nil =>
    simp only [complete, scan, finish]
    cases resolve parameters written reversed <;> rfl
  | cons c rest =>
    have other : isPart c = false := by simpa [nameEnds] using ends
    simp only [complete, scan, step, other, Bool.false_eq_true, if_false]
    cases resolve parameters written reversed <;> rfl

/-- The scanner reads a token and goes on behind it. -/
theorem complete_leads {text after : List Char} {token : Token} (leads : Leads text token after)
    (written : Positional) :
    complete parameters ⟨written, .plain⟩ text =
      (token.write parameters written).bind fun written => complete parameters ⟨written, .plain⟩ after := by
  cases leads with
  | @quoted quote body opens inside =>
    have inert : Mode.plain.after (quote :: (body ++ [quote])) = .plain := by
      change (Mode.ofPlain quote).after _ = _
      rw [Mode.ofPlain, if_pos opens, Mode.after_append, after_inside inside]
      simp [Mode.after, Mode.next]
    have read := complete_inert parameters inert written after
    simpa [write, chars, Except.bind] using read
  | @unclosed quote body opens inside =>
    have open' : Mode.plain.after (quote :: body) = .quoted quote := by
      change (Mode.ofPlain quote).after _ = _
      rw [Mode.ofPlain, if_pos opens, after_inside inside]
    rw [Placeholder.complete_eq (by rw [open']; rfl)]
    rfl
  | doubleColon =>
    have inert : Mode.plain.after [':', ':'] = .plain := rfl
    exact complete_inert parameters inert written after
  | @placeholder name _ isName ends =>
    have scanned := scan_placeholder parameters written isName
    rw [String.toList_append] at scanned
    have resolved : resolve parameters written name.toList.reverse =
        (Token.placeholder name).write parameters written := by
      cases found : parameters.get? name <;> simp [resolve, write, found]
    rw [← resolved, ← complete_named written _ ends]
    exact complete_append scanned after
  | colon single unnamed =>
    -- The colon is held back until the next character shows what it began.
    cases after with
    | nil => simp [complete, scan, step, readPlain, finish, write, chars, Except.bind, writeChar_eq]
    | cons c rest =>
      have apart : c ≠ ':' := by simpa using single
      have other : isStart c = false := by simpa using unnamed
      simp only [complete, scan, step, readPlain, write, chars, Except.bind, ← writeChar_eq, if_neg apart, other]
      rfl
  | @other c plain apart =>
    have inert : Mode.plain.after [c] = .plain := by
      change Mode.ofPlain c = _
      rw [Mode.ofPlain, if_neg plain, if_neg apart]
    exact complete_inert parameters inert written after

/-- The scanner does to a text what its tokens do one by one. -/
theorem complete_eq_foldlM {text : List Char} {tokens : List Token} (spells : Spells text tokens)
    (written : Positional) :
    complete parameters ⟨written, .plain⟩ text = tokens.foldlM (write parameters) written := by
  induction spells generalizing written with
  | nil => rfl
  | cons first _ ih =>
    rw [complete_leads first, List.foldlM_cons]
    simp only [ih]
    rfl

end Token

/-! ## Fragments -/

namespace Fragment

theorem join_text_intersperse (fragments : List Fragment) :
    String.join ((fragments.intersperse .comma).map text) = ", ".intercalate (fragments.map text) := by
  induction fragments with
  | nil => rfl
  | cons x xs ih =>
    cases xs with
    | nil => simp
    | cons y ys =>
      rw [List.map_cons] at ih
      rw [List.map_cons, List.map_cons, String.intercalate_cons_cons, ← ih, List.intersperse_cons_cons]
      simp [text, String.append_assoc]

theorem map_text_ofEntries (before : Nat) (entries : List (Option Value)) :
    (ofEntries (before + 1) entries).map text = Value.outlineTexts before (entries.map Option.isSome) := by
  induction entries generalizing before with
  | nil => rfl
  | cons entry entries ih =>
    cases entry with
    | none =>
      simp only [ofEntries, List.map_cons, ih]
      rfl
    | some value =>
      simp only [ofEntries, List.map_cons, ih]
      rfl

theorem filterMap_slot?_intersperse (fragments : List Fragment) :
    (fragments.intersperse .comma).filterMap slot? = fragments.filterMap slot? := by
  induction fragments with
  | nil => rfl
  | cons x xs ih =>
    cases xs with
    | nil => rfl
    | cons y ys =>
      rw [List.intersperse_cons_cons, List.filterMap_cons, List.filterMap_cons, ih, List.filterMap_cons]
      rfl

theorem filterMap_slot?_ofEntries (n : Nat) (entries : List (Option Value)) :
    (ofEntries n entries).filterMap slot? = (entries.filterMap id).zipIdx n := by
  induction entries generalizing n with
  | nil => rfl
  | cons entry entries ih =>
    cases entry with
    | none => exact ih n
    | some value => simpa [ofEntries, slot?] using ih (n + 1)

end Fragment

namespace Value

theorem text_fragments (before : Nat) (value : Value) :
    String.join ((value.fragments (before + 1)).map Fragment.text) = value.slotText before := by
  unfold fragments slotText outline
  rw [Fragment.join_text_intersperse, Fragment.map_text_ofEntries]

theorem slots_fragments (n : Nat) (value : Value) :
    (value.fragments n).filterMap Fragment.slot? = value.slots.zipIdx n := by
  unfold fragments slots
  rw [Fragment.filterMap_slot?_intersperse, Fragment.filterMap_slot?_ofEntries]

end Value

namespace Token

variable {parameters : Parameters}

theorem slots_fragmentsFrom (n : Nat) (tokens : List Token) :
    (fragmentsFrom parameters n tokens).filterMap Fragment.slot? = (tokens.flatMap (slots parameters)).zipIdx n := by
  induction tokens generalizing n with
  | nil => rfl
  | cons token tokens ih =>
    have here : (token.fragments parameters n).filterMap Fragment.slot? = (token.slots parameters).zipIdx n := by
      cases token with
      | placeholder name =>
        simp only [fragments, slots]
        cases parameters.get? name with
        | none => rfl
        | some value => exact value.slots_fragments n
      | _ => rfl
    rw [fragmentsFrom, List.filterMap_append, ih, here, List.flatMap_cons, List.zipIdx_append]

theorem unbound?_cons (token : Token) (tokens : List Token) :
    unbound? parameters (token :: tokens) = (unbound? parameters [token]).or (unbound? parameters tokens) := by
  simp only [unbound?, ← List.find?_append, ← List.filterMap_append, List.singleton_append]

/-- A token that has its values is replaced by its fragments. -/
theorem write_of_bound {token : Token} (bound : unbound? parameters [token] = none) (written : Positional) :
    token.write parameters written =
      .ok ⟨written.sql ++ String.join ((token.fragments parameters (written.values.length + 1)).map Fragment.text),
        written.values ++ token.slots parameters⟩ := by
  cases token with
  | placeholder name =>
    simp only [write, fragments, slots]
    cases found : parameters.get? name with
    | none => simp [unbound?, name?, Parameters.contains, found] at bound
    | some value =>
      simp only [Option.map_some, Option.getD_some, Value.text_fragments, Positional.place_eq]
  | _ => simp [write, fragments, slots, Positional.write, Fragment.text]

theorem write_of_unbound {token : Token} {name : String} (missing : unbound? parameters [token] = some name)
    (written : Positional) : token.write parameters written = .error (.unboundParameter name) := by
  cases token with
  | placeholder other =>
    simp only [write]
    cases found : parameters.get? other with
    | none =>
      have same : other = name := by simpa [unbound?, name?, Parameters.contains, found] using missing
      rw [same]
    | some value => simp [unbound?, name?, Parameters.contains, found] at missing
  | _ => cases missing

/-- Tokens are replaced by their fragments, up to the first name without a value. -/
theorem foldlM_write (tokens : List Token) (written : Positional) :
    tokens.foldlM (write parameters) written =
      match unbound? parameters tokens with
      | some name => .error (.unboundParameter name)
      | none => .ok ⟨written.sql ++
          String.join ((fragmentsFrom parameters (written.values.length + 1) tokens).map Fragment.text),
          written.values ++ tokens.flatMap (slots parameters)⟩ := by
  induction tokens generalizing written with
  | nil => simp [unbound?, fragmentsFrom, pure, Except.pure]
  | cons token tokens ih =>
    rw [List.foldlM_cons, unbound?_cons]
    cases first : unbound? parameters [token] with
    | some name => rw [write_of_unbound first]; rfl
    | none =>
      rw [write_of_bound first]
      change List.foldlM _ _ tokens = _
      rw [ih, Option.none_or]
      cases unbound? parameters tokens with
      | some name => rfl
      | none =>
        have number : (written.values ++ token.slots parameters).length + 1 =
            written.values.length + 1 + (token.slots parameters).length := by
          rw [List.length_append]
          omega
        simp only [number, fragmentsFrom, List.map_append, String.join_append, List.flatMap_cons,
          String.append_assoc, List.append_assoc]

theorem unbound?_eq_none_iff {tokens : List Token} :
    unbound? parameters tokens = none ↔ ∀ name, .placeholder name ∈ tokens → parameters.contains name = true := by
  unfold unbound?
  rw [List.find?_eq_none]
  constructor
  · intro none name mem
    simpa using none name (List.mem_filterMap.2 ⟨_, mem, rfl⟩)
  · intro bound name mem
    obtain ⟨token, mem, named⟩ := List.mem_filterMap.1 mem
    cases token <;> cases named
    simpa using bound name mem

end Token

namespace Statement

/-- The tokens of a statement. -/
def tokens (statement : Statement) : List Token :=
  Token.lex statement.sql.toList

/-- What becomes of a statement's tokens, its slots numbered from one on. -/
def fragments (statement : Statement) : List Fragment :=
  Token.fragmentsFrom statement.parameters 1 statement.tokens

/-- The values of a statement's slots, in order. -/
def slots (statement : Statement) : List Value :=
  statement.tokens.flatMap (Token.slots statement.parameters)

theorem positional_eq (statement : Statement) :
    statement.positional =
      match Token.unbound? statement.parameters statement.tokens with
      | some name => .error (.unboundParameter name)
      | none => .ok ⟨String.join (statement.fragments.map Fragment.text), statement.slots⟩ := by
  change Placeholder.complete statement.parameters ⟨.empty, .plain⟩ statement.sql.toList = _
  rw [Token.complete_eq_foldlM (Token.spells_lex _), Token.foldlM_write]
  simp only [Positional.empty, String.empty_append, List.nil_append]
  rfl

/-- **A statement is rendered token by token.** One row of tokens spells its text. It has a positional form
exactly when every placeholder's name is bound, and else fails for the first that is not; its fragments are then
the text, and slot `n` among them is for the value listed at `n`. -/
theorem positional_eq_render (statement : Statement) :
    (∀ tokens, Token.Spells statement.sql.toList tokens ↔ tokens = statement.tokens)
      ∧ ((∃ rendered, statement.positional = .ok rendered) ↔
        ∀ name, .placeholder name ∈ statement.tokens → statement.parameters.contains name = true)
      ∧ statement.positional =
        (match Token.unbound? statement.parameters statement.tokens with
        | some name => .error (.unboundParameter name)
        | none => .ok ⟨String.join (statement.fragments.map Fragment.text), statement.slots⟩)
      ∧ statement.fragments.filterMap Fragment.slot? = statement.slots.zipIdx 1 := by
  have rendered := statement.positional_eq
  refine ⟨fun tokens => Token.spells_iff, ?_, rendered, Token.slots_fragmentsFrom 1 _⟩
  rw [← Token.unbound?_eq_none_iff, rendered]
  cases Token.unbound? statement.parameters statement.tokens <;> simp

end Statement

end QueryFilter
