/-
Rendering what has been rendered.

Slots and gaps are written without quotes and colons, so they are read as single characters, and what stood
around a placeholder is read as before (`Token.spells_fragmentsFrom`). The one token that depends on what follows it
is a single colon, and a placeholder never follows one: the two colons would have been read together. So the
text of a positional form has the quoted runs of the statement and no placeholder, and rendering leaves it alone
(`Statement.positional_final`).
-/
import QueryFilter.Proofs.Sql.Rendering

namespace QueryFilter

/-- Characters that are neither quotes nor colons. -/
def PlainChars (cs : List Char) : Prop :=
  ∀ c ∈ cs, ¬(c = '\'' ∨ c = '"') ∧ c ≠ ':'

instance (cs : List Char) : Decidable (PlainChars cs) :=
  List.decidableBAll (fun c => ¬(c = '\'' ∨ c = '"') ∧ c ≠ ':') cs

namespace Fragment

/-- The tokens a fragment is read as. -/
def tokens : Fragment → List Token
  | kept token => [token]
  | fragment => fragment.text.toList.map Token.other

/-- Fragments that were not in the statement. -/
def IsNew : Fragment → Prop
  | kept _ => False
  | _ => True

theorem plainChars_slot (n : Nat) (value : Value) : PlainChars (slot n value).text.toList := by
  intro c mem
  have digit : c ∈ (Nat.repr n).toList → Text.isDigit c = true := by
    intro mem
    rw [Nat.toList_repr] at mem
    have read := Nat.isDigit_of_mem_toDigits (by decide) (by decide) mem
    simpa [Char.isDigit, Text.isDigit, Char.le_def] using read
  rw [text, String.toList_append, List.mem_append] at mem
  have read : c = '$' ∨ Text.isDigit c = true := mem.imp (by simp) digit
  refine ⟨?_, ?_⟩
  · rintro (rfl | rfl) <;> revert read <;> decide
  · rintro rfl
    revert read
    decide

theorem IsNew.plainChars {fragment : Fragment} (new : fragment.IsNew) : PlainChars fragment.text.toList := by
  cases fragment with
  | kept token => exact new.elim
  | slot n value => exact plainChars_slot n value
  | gap => decide
  | comma => decide

theorem IsNew.tokens_eq {fragment : Fragment} (new : fragment.IsNew) :
    fragment.tokens = fragment.text.toList.map Token.other := by
  cases fragment with
  | kept token => exact new.elim
  | _ => rfl

theorem isNew_of_mem_ofEntries {n : Nat} {entries : List (Option Value)} {fragment : Fragment}
    (mem : fragment ∈ ofEntries n entries) : fragment.IsNew := by
  induction entries generalizing n with
  | nil => cases mem
  | cons entry entries ih =>
    cases entry with
    | none =>
      rcases List.mem_cons.1 mem with rfl | later
      · trivial
      · exact ih later
    | some value =>
      rcases List.mem_cons.1 mem with rfl | later
      · trivial
      · exact ih later

theorem isNew_of_mem_intersperse {fragments : List Fragment} (all : ∀ fragment ∈ fragments, fragment.IsNew)
    {fragment : Fragment} (mem : fragment ∈ fragments.intersperse .comma) : fragment.IsNew := by
  induction fragments with
  | nil => cases mem
  | cons x xs ih =>
    cases xs with
    | nil => exact all fragment mem
    | cons y ys =>
      rw [List.intersperse_cons_cons, List.mem_cons, List.mem_cons] at mem
      rcases mem with rfl | rfl | later
      · exact all _ List.mem_cons_self
      · trivial
      · exact ih (fun fragment mem => all fragment (List.mem_cons_of_mem _ mem)) later

/-- The text of fragments. -/
def chars (fragments : List Fragment) : List Char :=
  (String.join (fragments.map text)).toList

theorem chars_append (xs ys : List Fragment) : chars (xs ++ ys) = chars xs ++ chars ys := by
  simp [chars, String.join_append]

theorem chars_cons (fragment : Fragment) (fragments : List Fragment) :
    chars (fragment :: fragments) = fragment.text.toList ++ chars fragments := by
  simp [chars]

end Fragment

theorem Value.isNew_of_mem_fragments {n : Nat} {value : Value} {fragment : Fragment}
    (mem : fragment ∈ value.fragments n) : fragment.IsNew :=
  Fragment.isNew_of_mem_intersperse (fun _ mem => Fragment.isNew_of_mem_ofEntries mem) mem

namespace Token

variable {parameters : Parameters}

theorem Spells.plainChars_append {cs rest : List Char} {tokens : List Token} (plain : PlainChars cs)
    (spells : Spells rest tokens) : Spells (cs ++ rest) (cs.map Token.other ++ tokens) := by
  induction cs with
  | nil => exact spells
  | cons c cs ih =>
    obtain ⟨unquoted, apart⟩ := plain c List.mem_cons_self
    exact .cons (.other unquoted apart _) (ih fun d mem => plain d (List.mem_cons_of_mem _ mem))

/-- New fragments are read one character at a time. -/
theorem Spells.fragments_append {fragments : List Fragment} (new : ∀ fragment ∈ fragments, fragment.IsNew)
    {rest : List Char} {tokens : List Token} (spells : Spells rest tokens) :
    Spells (Fragment.chars fragments ++ rest) (fragments.flatMap Fragment.tokens ++ tokens) := by
  induction fragments with
  | nil => exact spells
  | cons fragment fragments ih =>
    have here := new fragment List.mem_cons_self
    have others := ih fun fragment mem => new fragment (List.mem_cons_of_mem _ mem)
    rw [Fragment.chars_cons, List.flatMap_cons, here.tokens_eq, List.append_assoc, List.append_assoc]
    exact others.plainChars_append here.plainChars

theorem fragmentsFrom_kept {token : Token} (kept : token.name? = none) (n : Nat) (tokens : List Token) :
    fragmentsFrom parameters n (token :: tokens) = .kept token :: fragmentsFrom parameters n tokens := by
  cases token with
  | placeholder name => cases kept
  | _ => rfl

theorem chars_fragmentsFrom_kept {token : Token} (kept : token.name? = none) (n : Nat) (tokens : List Token) :
    Fragment.chars (fragmentsFrom parameters n (token :: tokens)) =
      token.chars ++ Fragment.chars (fragmentsFrom parameters n tokens) := by
  rw [fragmentsFrom_kept kept, Fragment.chars_cons, Fragment.text, String.toList_ofList]

/-- What a placeholder gives way to is new. -/
theorem isNew_of_mem_fragments {name : String} {n : Nat} {fragment : Fragment}
    (mem : fragment ∈ (placeholder name).fragments parameters n) : fragment.IsNew := by
  simp only [fragments] at mem
  cases found : parameters.get? name with
  | none =>
    rw [found] at mem
    cases mem
  | some value =>
    rw [found] at mem
    exact Value.isNew_of_mem_fragments mem

/-- The quoted runs among tokens. -/
def isQuoted : Token → Bool
  | quoted _ _ | unclosed _ _ => true
  | _ => false

theorem isNew_or_kept (parameters : Parameters) (n : Nat) (token : Token) :
    (∀ fragment ∈ token.fragments parameters n, fragment.IsNew) ∧ token.isQuoted = false
      ∨ token.fragments parameters n = [.kept token] ∧ token.name? = none := by
  cases token with
  | placeholder name => exact .inl ⟨fun _ mem => isNew_of_mem_fragments mem, rfl⟩
  | _ => exact .inr ⟨rfl, rfl⟩

/-- What does not begin with a colon begins as before once its placeholders have been replaced. -/
theorem head?_fragmentsFrom (parameters : Parameters) {text : List Char} {tokens : List Token}
    (spells : Spells text tokens) (apart : text.head? ≠ some ':') (n : Nat) :
    (Fragment.chars (fragmentsFrom parameters n tokens)).head? = text.head? := by
  cases spells with
  | nil => rfl
  | cons first others =>
    cases first with
    | quoted => rw [chars_fragmentsFrom_kept rfl]; rfl
    | unclosed => rw [chars_fragmentsFrom_kept rfl]; rfl
    | doubleColon => exact absurd rfl apart
    | placeholder => exact absurd rfl apart
    | colon => exact absurd rfl apart
    | other => rw [chars_fragmentsFrom_kept rfl]; rfl

/-- A token that stays is followed by as much as before. -/
theorem Leads.replaced {text after : List Char} {token : Token} (leads : Leads text token after)
    (kept : token.name? = none) {tokens : List Token} (others : Spells after tokens) (n : Nat) :
    Leads (token.chars ++ Fragment.chars (fragmentsFrom parameters n tokens)) token
      (Fragment.chars (fragmentsFrom parameters n tokens)) := by
  cases leads with
  | quoted opens inside =>
    rw [chars, List.cons_append, List.append_assoc]
    exact .quoted opens inside _
  | unclosed opens inside =>
    -- Nothing follows a quoted run that is not closed.
    cases others with
    | nil => simpa [fragmentsFrom, Fragment.chars, chars] using Leads.unclosed opens inside
    | cons first _ => cases first
  | doubleColon => exact .doubleColon _
  | placeholder => cases kept
  | colon single unnamed =>
    have head := head?_fragmentsFrom parameters others single n
    rw [← head] at single unnamed
    exact .colon single unnamed
  | other plain apart => exact .other plain apart _

/-- What has been rendered is read as the fragments it was written from. -/
theorem spells_fragmentsFrom {text : List Char} {tokens : List Token} (spells : Spells text tokens) (n : Nat) :
    Spells (Fragment.chars (fragmentsFrom parameters n tokens))
      ((fragmentsFrom parameters n tokens).flatMap Fragment.tokens) := by
  induction spells generalizing n with
  | nil => exact .nil
  | @cons _ _ token tokens first others ih =>
    rcases isNew_or_kept parameters n token with ⟨new, -⟩ | ⟨-, kept⟩
    · rw [fragmentsFrom, Fragment.chars_append, List.flatMap_append]
      exact (ih _).fragments_append new
    · rw [chars_fragmentsFrom_kept kept, fragmentsFrom_kept kept]
      exact .cons (first.replaced kept others n) (ih n)

theorem name?_of_mem_fragments {n : Nat} {tokens : List Token} {token : Token}
    (mem : token ∈ (fragmentsFrom parameters n tokens).flatMap Fragment.tokens) : token.name? = none := by
  induction tokens generalizing n with
  | nil => cases mem
  | cons first tokens ih =>
    rw [fragmentsFrom, List.flatMap_append, List.mem_append] at mem
    rcases mem with here | later
    · obtain ⟨fragment, mem, read⟩ := List.mem_flatMap.1 here
      rcases isNew_or_kept parameters n first with ⟨new, -⟩ | ⟨kept, unnamed⟩
      · rw [(new fragment mem).tokens_eq] at read
        obtain ⟨c, -, rfl⟩ := List.mem_map.1 read
        rfl
      · rw [kept, List.mem_singleton] at mem
        subst mem
        rwa [List.mem_singleton.1 read]
    · exact ih later

theorem filter_isQuoted_fragments (n : Nat) (tokens : List Token) :
    ((fragmentsFrom parameters n tokens).flatMap Fragment.tokens).filter isQuoted = tokens.filter isQuoted := by
  induction tokens generalizing n with
  | nil => rfl
  | cons first tokens ih =>
    rw [fragmentsFrom, List.flatMap_append, List.filter_append, ih, ← List.singleton_append, List.filter_append]
    congr 1
    rcases isNew_or_kept parameters n first with ⟨new, unquoted⟩ | ⟨kept, -⟩
    · rw [List.filter_cons_of_neg (by simp [unquoted])]
      refine List.filter_eq_nil_iff.2 fun token mem => ?_
      obtain ⟨fragment, mem, read⟩ := List.mem_flatMap.1 mem
      rw [(new fragment mem).tokens_eq] at read
      obtain ⟨c, -, rfl⟩ := List.mem_map.1 read
      simp [isQuoted]
    · rw [kept]
      rfl

/-- Without placeholders there is nothing to replace. -/
theorem fragmentsFrom_of_unnamed (parameters : Parameters) {tokens : List Token}
    (unnamed : ∀ token ∈ tokens, token.name? = none) (n : Nat) :
    Fragment.chars (fragmentsFrom parameters n tokens) = tokens.flatMap chars
      ∧ tokens.flatMap (slots parameters) = [] := by
  induction tokens with
  | nil => exact ⟨rfl, rfl⟩
  | cons first tokens ih =>
    obtain ⟨written, listed⟩ := ih fun token mem => unnamed token (List.mem_cons_of_mem _ mem)
    have kept := unnamed first List.mem_cons_self
    refine ⟨?_, ?_⟩
    · rw [chars_fragmentsFrom_kept kept, written, List.flatMap_cons]
    · rw [List.flatMap_cons, listed, List.append_nil]
      cases first with
      | placeholder name => cases kept
      | _ => rfl

end Token

namespace Statement

/-- A statement without placeholders is its own positional form. -/
theorem positional_of_unnamed {sql : String} (unnamed : ∀ token ∈ Token.lex sql.toList, token.name? = none)
    (parameters : Parameters) : positional ⟨sql, parameters⟩ = .ok ⟨sql, []⟩ := by
  have bound : Token.unbound? parameters (Token.lex sql.toList) = none := by
    refine Token.unbound?_eq_none_iff.2 fun name mem => ?_
    cases unnamed _ mem
  obtain ⟨written, listed⟩ := Token.fragmentsFrom_of_unnamed parameters unnamed 1
  rw [(Token.spells_lex _).chars_eq] at written
  rw [positional_eq]
  simp only [tokens, bound, slots, fragments, listed]
  rw [String.toList_inj.1 written]

/-- **A positional form is final.** Its text is read as the fragments it was written from: it has no
placeholder and the quoted runs of the statement, and rendered again, with whatever parameters, it stays. -/
theorem positional_final {statement : Statement} {rendered : Positional}
    (positional : statement.positional = .ok rendered) :
    (∀ parameters, Statement.positional ⟨rendered.sql, parameters⟩ = .ok ⟨rendered.sql, []⟩)
      ∧ Token.lex rendered.sql.toList = statement.fragments.flatMap Fragment.tokens
      ∧ (∀ name, .placeholder name ∉ Token.lex rendered.sql.toList)
      ∧ (Token.lex rendered.sql.toList).filter Token.isQuoted = statement.tokens.filter Token.isQuoted := by
  have written : rendered.sql = String.join (statement.fragments.map Fragment.text) := by
    rw [positional_eq] at positional
    split at positional
    · cases positional
    · cases positional
      rfl
  have read : Token.lex rendered.sql.toList = statement.fragments.flatMap Fragment.tokens := by
    rw [written]
    exact (Token.spells_fragmentsFrom (Token.spells_lex _) 1).lex_eq
  have unnamed : ∀ token ∈ Token.lex rendered.sql.toList, token.name? = none := by
    rw [read]
    exact fun _ mem => Token.name?_of_mem_fragments mem
  refine ⟨positional_of_unnamed unnamed, read, fun name mem => ?_, ?_⟩
  · cases unnamed _ mem
  · rw [read]
    exact Token.filter_isQuoted_fragments 1 _

end Statement

namespace Sample

/-- Parameters with a list that has an empty list in it. -/
def taggedDay : Parameters :=
  Parameters.ofList [("tags", .list [.list [], .text "a"]), ("day", .integer 3)]

/-- A statement with colons on all sides of its placeholders, and others in quotes. -/
def colonRuns : Statement :=
  ⟨":::tags:day::date ': :tags' :day: \"x:day", taggedDay⟩

end Sample

open Sample in
/-- Neither the casts nor the quotes are disturbed by what comes to stand beside them. -/
theorem Statement.positional_final_colonRuns :
    colonRuns.positional = .ok ⟨"::NULL, $1$2::date ': :tags' $3: \"x:day", [.text "a", .integer 3, .integer 3]⟩
      ∧ Statement.positional ⟨"::NULL, $1$2::date ': :tags' $3: \"x:day", .empty⟩ =
        .ok ⟨"::NULL, $1$2::date ': :tags' $3: \"x:day", []⟩ := by
  have rendered : colonRuns.positional =
      .ok ⟨"::NULL, $1$2::date ': :tags' $3: \"x:day", [.text "a", .integer 3, .integer 3]⟩ := by rfl
  exact ⟨rendered, (positional_final rendered).1 .empty⟩

end QueryFilter
