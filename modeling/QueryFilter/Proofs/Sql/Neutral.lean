/-
Text without placeholders.

A text is neutral when, without any parameters, it is its own positional form, and every quote it opens is
closed by its end. Outside of names the scanner copies what it reads and keeps at most one colon back
(`Placeholder.scan_eq`), so a neutral text is one after which the scanner stands in plain text, or behind
a single colon (`neutral_iff`).
-/
import QueryFilter.Sql.Identifier
import QueryFilter.Sql.Statement
import QueryFilter.Text.Space

namespace QueryFilter

/-- The quote that is open after a text, given the one that is open before it. -/
def openQuote : Option Char → List Char → Option Char
  | before, [] => before
  | none, c :: rest => openQuote (if c = '\'' ∨ c = '"' then some c else none) rest
  | some quote, c :: rest => openQuote (if c = quote then none else some quote) rest

/-- Text that is its own positional form without any parameters, and closes every quote it opens. -/
structure Neutral (text : String) : Prop where
  unchanged : Statement.positional ⟨text, .empty⟩ = .ok ⟨text, []⟩
  closed : openQuote none text.toList = none

namespace Placeholder

namespace Mode

def isName : Mode → Bool
  | name _ => true
  | _ => false

/-- What has been read but not written yet. -/
def held : Mode → List Char
  | colon => [':']
  | name reversed => ':' :: reversed.reverse
  | _ => []

def openedQuote : Mode → Option Char
  | quoted quote => some quote
  | _ => none

/-- What the last characters began after a character that continues nothing. -/
def ofPlain (c : Char) : Mode :=
  if c = '\'' ∨ c = '"' then quoted c else if c = ':' then colon else plain

/-- What the last characters began after one more, names not being left. -/
def next (mode : Mode) (c : Char) : Mode :=
  match mode with
  | plain => ofPlain c
  | quoted quote => if c = quote then plain else quoted quote
  | colon => if c = ':' then plain else if isStart c then name [c] else ofPlain c
  | name reversed => name reversed

/-- What the last characters of a text began, the first name not being left. -/
def after (mode : Mode) (text : List Char) : Mode :=
  text.foldl next mode

theorem after_append (mode : Mode) (xs ys : List Char) :
    mode.after (xs ++ ys) = (mode.after xs).after ys :=
  List.foldl_append

theorem isName_after {mode : Mode} (h : mode.isName = true) (text : List Char) :
    (mode.after text).isName = true := by
  induction text generalizing mode with
  | nil => exact h
  | cons c rest ih =>
    refine ih ?_
    cases mode with
    | name reversed => rfl
    | plain => cases h
    | quoted quote => cases h
    | colon => cases h

end Mode

theorem write_nil (p : Positional) : p.write (String.ofList []) = p := by
  simp [Positional.write]

theorem write_write (p : Positional) (xs ys : List Char) :
    (p.write (String.ofList xs)).write (String.ofList ys) = p.write (String.ofList (xs ++ ys)) := by
  simp [Positional.write, String.append_assoc]

theorem writeChar_eq (p : Positional) (c : Char) : p.writeChar c = p.write (String.ofList [c]) := by
  rw [← String.singleton_eq_ofList]
  rfl

theorem readPlain_eq (c : Char) :
    ∃ text, text ++ (Mode.ofPlain c).held = [c] ∧
      ∀ written, readPlain written c = ⟨written.write (String.ofList text), Mode.ofPlain c⟩ := by
  unfold readPlain Mode.ofPlain
  split
  · exact ⟨[c], rfl, fun written => by rw [writeChar_eq]⟩
  · split
    · rename_i colon
      exact ⟨[], by rw [colon]; rfl, fun written => by rw [write_nil]⟩
    · exact ⟨[c], rfl, fun written => by rw [writeChar_eq]⟩

/-- Outside of names a step writes what it reads, less what is held back, whatever the parameters. -/
theorem step_eq {mode : Mode} (outside : mode.isName = false) (c : Char) :
    ∃ text, text ++ (mode.next c).held = mode.held ++ [c] ∧ ∀ parameters written,
      step parameters ⟨written, mode⟩ c = .ok ⟨written.write (String.ofList text), mode.next c⟩ := by
  cases mode with
  | name reversed => cases outside
  | plain =>
    obtain ⟨text, copied, read⟩ := readPlain_eq c
    exact ⟨text, copied, fun _ written => by simp only [step, read]; rfl⟩
  | quoted quote =>
    refine ⟨[c], ?_, fun _ written => by simp only [step, writeChar_eq]; rfl⟩
    simp only [Mode.next]
    split <;> rfl
  | colon =>
    -- The colon held back is written with the second one, lost to a name, or written before what follows.
    by_cases double : c = ':'
    · subst double
      exact ⟨[':', ':'], rfl, fun _ written => rfl⟩
    · by_cases start : isStart c = true
      · refine ⟨[], ?_, fun _ written => ?_⟩
        · simp [Mode.next, double, start, Mode.held]
        · simp [step, Mode.next, double, start, Positional.write]
      · obtain ⟨text, copied, read⟩ := readPlain_eq c
        have started : isStart c = false := by simpa using start
        have going : Mode.colon.next c = Mode.ofPlain c := by
          simp only [Mode.next, double, started, if_false, Bool.false_eq_true]
        refine ⟨':' :: text, ?_, fun _ written => ?_⟩
        · rw [going, List.cons_append, copied]
          rfl
        · simp only [step, going, double, started, if_false, Bool.false_eq_true, read]
          rw [writeChar_eq, write_write, List.singleton_append]

/-- Up to the first name the scanner writes what it reads, less what is held back. -/
theorem scan_eq {mode : Mode} {text : List Char} (outside : (mode.after text).isName = false) :
    ∃ copy, copy ++ (mode.after text).held = mode.held ++ text ∧ ∀ parameters written,
      scan parameters ⟨written, mode⟩ text = .ok ⟨written.write (String.ofList copy), mode.after text⟩ := by
  induction text generalizing mode with
  | nil => exact ⟨[], by simp [Mode.after], fun _ written => by rw [write_nil]; rfl⟩
  | cons c rest ih =>
    have here : mode.isName = false := by
      cases name : mode.isName with
      | false => rfl
      | true =>
        rw [Mode.isName_after name] at outside
        cases outside
    obtain ⟨first, copied, stepped⟩ := step_eq here c
    obtain ⟨others, copiedRest, scanned⟩ := ih outside
    refine ⟨first ++ others, ?_, fun parameters written => ?_⟩
    · rw [List.append_assoc]
      change first ++ (others ++ ((mode.next c).after rest).held) = _
      rw [copiedRest, ← List.append_assoc, copied, List.append_assoc]
      rfl
    · simp only [scan, stepped, scanned, write_write]
      rfl

/-- What has been written once the rest of a text has been read. -/
def complete (parameters : Parameters) (state : State) (text : List Char) : Except Failure Positional :=
  match scan parameters state text with
  | .ok last => finish parameters last
  | .error failure => .error failure

theorem complete_append {parameters : Parameters} {state next : State} {text : List Char}
    (scanned : scan parameters state text = .ok next) (rest : List Char) :
    complete parameters state (text ++ rest) = complete parameters next rest := by
  unfold complete
  rw [scan_append, scanned]

/-- Without parameters a name that has begun cannot end well. -/
theorem complete_name_empty (written : Positional) (reversed text : List Char) :
    ∃ failure, complete .empty ⟨written, .name reversed⟩ text = .error failure := by
  induction text generalizing reversed with
  | nil => exact ⟨_, rfl⟩
  | cons c rest ih =>
    unfold complete at ih ⊢
    by_cases part : isPart c = true
    · simpa only [scan, step, part, if_true] using ih (c :: reversed)
    · have parted : isPart c = false := by simpa using part
      exact ⟨.unboundParameter (String.ofList reversed.reverse), by
        simp [scan, step, parted, resolve, Parameters.get?, Parameters.empty]⟩

theorem complete_empty_of_isName {mode : Mode} {text : List Char} (outside : mode.isName = false)
    (named : (mode.after text).isName = true) (written : Positional) :
    ∃ failure, complete .empty ⟨written, mode⟩ text = .error failure := by
  induction text generalizing mode written with
  | nil =>
    rw [show mode.after [] = mode from rfl, outside] at named
    cases named
  | cons c rest ih =>
    obtain ⟨first, -, stepped⟩ := step_eq outside c
    have stepped : scan .empty ⟨written, mode⟩ [c] = .ok ⟨written.write (String.ofList first), mode.next c⟩ := by
      simp only [scan, stepped]
    rw [← List.singleton_append, complete_append stepped]
    cases next : mode.next c with
    | name reversed => exact complete_name_empty _ reversed rest
    | plain => exact ih rfl (by rw [← next]; exact named) _
    | quoted quote => exact ih rfl (by rw [← next]; exact named) _
    | colon => exact ih rfl (by rw [← next]; exact named) _

/-- A text without names is complete once what is held back at its end has been written. -/
theorem complete_eq {mode : Mode} {text : List Char} (outside : (mode.after text).isName = false)
    (parameters : Parameters) (written : Positional) :
    complete parameters ⟨written, mode⟩ text = .ok (written.write (String.ofList (mode.held ++ text))) := by
  obtain ⟨copy, copied, scanned⟩ := scan_eq outside
  unfold complete
  rw [scanned, ← copied, ← write_write]
  cases ends : mode.after text with
  | name reversed =>
    rw [ends] at outside
    cases outside
  | plain => simp only [finish, Mode.held, write_nil]
  | quoted quote => simp only [finish, Mode.held, write_nil]
  | colon => simp only [finish, Mode.held, writeChar_eq]

theorem openQuote_ofPlain (c : Char) (rest : List Char) :
    openQuote none (c :: rest) = openQuote (Mode.ofPlain c).openedQuote rest := by
  rw [openQuote]
  unfold Mode.ofPlain
  split
  · rfl
  · split <;> rfl

theorem openQuote_next {mode : Mode} {c : Char} (outside : (mode.next c).isName = false)
    (rest : List Char) :
    openQuote mode.openedQuote (c :: rest) = openQuote (mode.next c).openedQuote rest := by
  cases mode with
  | name reversed => cases outside
  | plain => exact openQuote_ofPlain c rest
  | quoted quote =>
    simp only [Mode.openedQuote, Mode.next, openQuote]
    split <;> rfl
  | colon =>
    simp only [Mode.next] at outside ⊢
    split
    · rename_i double
      rw [double]
      rfl
    · rename_i single
      split
      · rename_i start
        rw [if_neg single, if_pos start] at outside
        cases outside
      · exact openQuote_ofPlain c rest

/-- The quotes of a text are those of the scanner, up to the first name. -/
theorem openQuote_eq {mode : Mode} {text : List Char} (outside : (mode.after text).isName = false) :
    openQuote mode.openedQuote text = (mode.after text).openedQuote := by
  induction text generalizing mode with
  | nil => cases mode <;> rfl
  | cons c rest ih =>
    have next : (mode.next c).isName = false := by
      cases name : (mode.next c).isName with
      | false => rfl
      | true =>
        have still := Mode.isName_after name rest
        exact (Bool.noConfusion (still.symm.trans outside))
    rw [openQuote_next next]
    exact ih outside

end Placeholder

open Placeholder in
/-- A text is neutral when the scanner ends it in plain text or behind one colon. -/
theorem neutral_iff {text : String} :
    Neutral text ↔ Mode.plain.after text.toList = .plain ∨ Mode.plain.after text.toList = .colon := by
  constructor
  · intro neutral
    have outside : (Mode.plain.after text.toList).isName = false := by
      cases named : (Mode.plain.after text.toList).isName with
      | false => rfl
      | true =>
        obtain ⟨failure, failed⟩ := complete_empty_of_isName rfl named .empty
        have unchanged : complete .empty ⟨.empty, .plain⟩ text.toList = .ok ⟨text, []⟩ := neutral.unchanged
        rw [failed] at unchanged
        cases unchanged
    have closed : openQuote Mode.plain.openedQuote text.toList = none := neutral.closed
    rw [openQuote_eq outside] at closed
    revert outside closed
    cases Mode.plain.after text.toList with
    | plain => exact fun _ _ => .inl rfl
    | colon => exact fun _ _ => .inr rfl
    | quoted quote => intro _ closed; cases closed
    | name reversed => intro outside; cases outside
  · intro ends
    have outside : (Mode.plain.after text.toList).isName = false := by
      rcases ends with ends | ends <;> rw [ends] <;> rfl
    constructor
    · have completed : Statement.positional ⟨text, .empty⟩ = _ := complete_eq outside .empty .empty
      rw [completed]
      simp [Mode.held, Positional.write, Positional.empty]
    · have quotes := openQuote_eq outside
      rcases ends with ends | ends <;> rw [ends] at quotes <;> exact quotes

/-- Text after which the scanner is where it was before it. -/
def Inert (text : String) : Prop :=
  Placeholder.Mode.plain.after text.toList = .plain

instance (text : String) : Decidable (Inert text) :=
  inferInstanceAs (Decidable (_ = _))

theorem Inert.neutral {text : String} (inert : Inert text) : Neutral text :=
  neutral_iff.2 (.inl inert)

theorem Inert.append {s t : String} (left : Inert s) (right : Inert t) : Inert (s ++ t) := by
  unfold Inert at left right ⊢
  rw [String.toList_append, Placeholder.Mode.after_append, left, right]

/-- A space settles a colon that is held back. -/
theorem Neutral.space {text : String} (neutral : Neutral text) : Inert (text ++ " ") := by
  unfold Inert
  rw [String.toList_append, Placeholder.Mode.after_append]
  rcases neutral_iff.1 neutral with ends | ends
  · rw [ends]; rfl
  · rw [ends]; rfl

theorem Inert.intercalate {separator : String} (inert : Inert separator) {texts : List String}
    (all : ∀ text ∈ texts, Inert text) : Inert (separator.intercalate texts) := by
  induction texts with
  | nil => rfl
  | cons x xs ih =>
    cases xs with
    | nil => simpa using all
    | cons y ys =>
      rw [String.intercalate_cons_cons]
      have others := ih fun text mem => all text (List.mem_cons_of_mem _ mem)
      exact ((all x List.mem_cons_self).append inert).append others

namespace Identifier

theorem after_doubleQuotes (cs : List Char) :
    (Placeholder.Mode.quoted '"').after (doubleQuotes cs) = .quoted '"' := by
  induction cs with
  | nil => rfl
  | cons c rest ih =>
    by_cases quote : c = '"'
    · subst quote
      exact ih
    · simp only [doubleQuotes, if_neg quote]
      change ((Placeholder.Mode.quoted '"').next c).after _ = _
      rw [Placeholder.Mode.next, if_neg quote]
      exact ih

/-- Whatever a quoted identifier is made from, the scanner passes over it. -/
theorem inert_quote (name : String) : Inert (quote name) := by
  unfold Inert quote
  simp only [String.toList_append, String.toList_ofList, Placeholder.Mode.after_append]
  rw [show Placeholder.Mode.plain.after "\"".toList = .quoted '"' from rfl, after_doubleQuotes]
  rfl

end Identifier

namespace Text

open Placeholder

theorem ofPlain_space {c : Char} (space : isSpace c = true) : Mode.ofPlain c = .plain := by
  unfold Mode.ofPlain
  split
  · rename_i quote
    rcases quote with rfl | rfl <;> cases space
  · split
    · rename_i colon
      subst colon
      cases space
    · rfl

theorem after_trimStart (text : List Char) : Mode.plain.after (trimStart text) = Mode.plain.after text := by
  induction text with
  | nil => rfl
  | cons c rest ih =>
    unfold trimStart at ih ⊢
    rw [List.dropWhile_cons]
    split
    · rename_i space
      change _ = (Mode.ofPlain c).after rest
      rw [ofPlain_space space, ih]
    · rfl

/-- The only texts in quotes are those in one of the two quotes. -/
def QuoteMode (mode : Mode) : Prop :=
  ∀ quote, mode = .quoted quote → quote = '\'' ∨ quote = '"'

theorem QuoteMode.ofPlain (c : Char) : QuoteMode (Mode.ofPlain c) := by
  intro quote h
  unfold Mode.ofPlain at h
  split at h
  · rename_i opens
    cases h
    exact opens
  · split at h <;> cases h

theorem QuoteMode.next {mode : Mode} (sound : QuoteMode mode) (c : Char) : QuoteMode (mode.next c) := by
  cases mode with
  | plain => exact .ofPlain c
  | name reversed => exact sound
  | quoted quote =>
    intro other h
    simp only [Mode.next] at h
    split at h
    · cases h
    · exact sound other h
  | colon =>
    intro quote h
    simp only [Mode.next] at h
    split at h
    · cases h
    · split at h
      · cases h
      · exact QuoteMode.ofPlain c quote h

theorem QuoteMode.after {mode : Mode} (sound : QuoteMode mode) (text : List Char) :
    QuoteMode (mode.after text) := by
  induction text generalizing mode with
  | nil => exact sound
  | cons c rest ih => exact ih (sound.next c)

/-- White space leaves a quote open and a name begun. -/
theorem next_space {mode : Mode} (sound : QuoteMode mode) {c : Char} (space : isSpace c = true)
    (ends : mode.next c = .plain ∨ mode.next c = .colon) : mode = .plain ∨ mode = .colon := by
  cases mode with
  | plain => exact .inl rfl
  | colon => exact .inr rfl
  | name reversed => rcases ends with ends | ends <;> cases ends
  | quoted quote =>
    have other : c ≠ quote := by
      rintro rfl
      rcases sound c rfl with rfl | rfl <;> cases space
    simp [Mode.next, other] at ends

theorem after_trimEnd {text : List Char}
    (ends : Mode.plain.after text = .plain ∨ Mode.plain.after text = .colon) :
    Mode.plain.after (trimEnd text) = .plain ∨ Mode.plain.after (trimEnd text) = .colon := by
  obtain ⟨reversed, rfl⟩ : ∃ reversed, text = List.reverse reversed := ⟨text.reverse, by simp⟩
  unfold trimEnd
  rw [List.reverse_reverse]
  induction reversed with
  | nil => exact ends
  | cons c rest ih =>
    rw [List.dropWhile_cons]
    split
    · rename_i space
      rw [List.reverse_cons, Mode.after_append] at ends
      have sound : QuoteMode (Mode.plain.after rest.reverse) := QuoteMode.after (fun _ h => by cases h) _
      exact ih (next_space sound space ends)
    · exact ends

end Text

/-- A neutral text is neutral without the white space around it. -/
theorem Neutral.strip {text : String} (neutral : Neutral text) : Neutral (Text.strip text) := by
  rw [neutral_iff] at neutral ⊢
  rw [Text.toList_strip]
  exact Text.after_trimEnd (by rwa [Text.after_trimStart])

end QueryFilter
