/-
Which commas separate.

A choice of commas cuts a text into pieces, and the pieces that are not blank, trimmed, are its segments
(`CommaChoice.segments`). No two choices with solid segments have the same ones
(`eq_of_flatMap_eq`): up to the first character that is neither a comma nor white space, a
segment tells how many commas belong to it, so the two choices agree on every comma from the left. The segments of
a filter text are solid, for a comma in them stands in a list that is closed in its segment; so there is one choice
that gives them, the commas after which no list is closed first (`separators_unique`).
-/
import QueryFilter.Proofs.Filter.Joining
import QueryFilter.Proofs.Filter.ReadBack
import QueryFilter.Proofs.Text.Places

namespace QueryFilter

/-- Commas of a text, by their places from left to right. -/
@[ext]
structure CommaChoice (text : List Char) where
  places : List Nat
  rising : places.Pairwise (· < ·)
  commas : ∀ place ∈ places, text[place]? = some ','

namespace CommaChoice

variable {text : List Char}

/-- The pieces between the commas. -/
def pieces (choice : CommaChoice text) : List (List Char) :=
  Text.piecesFrom text 0 choice.places

/-- The pieces that are not blank, trimmed. -/
def segments (choice : CommaChoice text) : List (List Char) :=
  (choice.pieces.filter fun piece => !Text.isBlank piece).map Text.trim

theorem rise (choice : CommaChoice text) : Text.RiseFrom ',' text 0 choice.places :=
  Text.riseFrom_of_pairwise choice.rising choice.commas fun _ _ => Nat.zero_le _

theorem pieces_ne_nil (choice : CommaChoice text) : choice.pieces ≠ [] :=
  Text.piecesFrom_ne_nil _ _ _

theorem joinWith_pieces (choice : CommaChoice text) : Text.joinWith ',' choice.pieces = text :=
  Text.joinWith_piecesFrom choice.rise

theorem eq_of_pieces_eq {choice other : CommaChoice text} (same : choice.pieces = other.pieces) : choice = other :=
  CommaChoice.ext (Text.piecesFrom_injective choice.rise other.rise same)

theorem segments_eq (choice : CommaChoice text) : choice.segments = FilterSegment.ofPieces choice.pieces := by
  unfold segments FilterSegment.ofPieces
  rw [List.filter_map]
  congr 2
  funext piece
  rw [Function.comp_apply, Text.isEmpty_trim]

end CommaChoice

namespace Text

/-- The characters that are not white space. -/
def visible (cs : List Char) : List Char :=
  cs.filter fun c => !isSpace c

theorem visible_append (cs cs' : List Char) : visible (cs ++ cs') = visible cs ++ visible cs' :=
  List.filter_append _ _

theorem visible_of_blank {cs : List Char} (blank : isBlank cs = true) : visible cs = [] := by
  rw [isBlank, List.all_eq_true] at blank
  exact List.filter_eq_nil_iff.2 fun c mem => by simp [blank c mem]

theorem visible_trim (cs : List Char) : visible (trim cs) = visible cs :=
  filter_trim (fun c shown => by simpa using shown) cs

theorem exists_trim_gap (cs : List Char) : ∃ gap, isBlank gap = true ∧ trimStart cs = trim cs ++ gap := by
  refine ⟨((trimStart cs).reverse.takeWhile isSpace).reverse, ?_, ?_⟩
  · rw [isBlank, List.all_reverse]
    exact List.all_takeWhile
  · rw [trim, trimEnd, ← List.reverse_append, List.takeWhile_append_dropWhile, List.reverse_reverse]

end Text

namespace FilterSegment

/-! ## Segments that tell their commas -/

/-- A segment that is not made of commas and white space alone. -/
def Solid (segment : List Char) : Prop :=
  ∃ c ∈ Text.visible segment, c ≠ ','

/-- A text without a comma in front of pieces, each behind a comma, is told from them. -/
theorem flatMap_eq_of_append_eq {gap gap' : List Char} {pieces pieces' : List (List Char)} (absent : ',' ∉ gap)
    (absent' : ',' ∉ gap') (same : gap ++ pieces.flatMap (',' :: ·) = gap' ++ pieces'.flatMap (',' :: ·)) :
    gap = gap' ∧ pieces.flatMap (',' :: ·) = pieces'.flatMap (',' :: ·) := by
  have before {lead : List Char} (absent : ',' ∉ lead) (others : List (List Char)) :
      (lead ++ others.flatMap (',' :: ·)).takeWhile (· ≠ ',') = lead := by
    rw [List.takeWhile_append_of_pos fun c mem => by simpa using fun comma : c = ',' => absent (comma ▸ mem)]
    cases others <;> simp
  have gaps := before absent pieces
  rw [same, before absent' pieces'] at gaps
  subst gaps
  exact ⟨rfl, List.append_cancel_left same⟩

theorem ofPieces_cons_of_blank {piece : List Char} (blank : Text.isBlank piece = true) (pieces : List (List Char)) :
    ofPieces (piece :: pieces) = ofPieces pieces :=
  List.filter_cons_of_neg (by simp [Text.trim_eq_nil_iff.2 blank])

theorem trim_mem_ofPieces_of_visible {piece : List Char} (visible : Text.isBlank piece = false)
    (pieces : List (List Char)) : Text.trim piece ∈ ofPieces (piece :: pieces) := by
  rw [ofPieces_cons_of_visible visible]
  exact List.mem_cons_self

/-- The commas before the first segment of some pieces stand before what is visible of it. -/
theorem exists_visible_flatMap {pieces segments : List (List Char)} {segment : List Char}
    (first : ofPieces pieces = segment :: segments) :
    ∃ count rest, Text.visible (pieces.flatMap (',' :: ·)) =
      List.replicate (count + 1) ',' ++ (Text.visible segment ++ rest) := by
  induction pieces with
  | nil => cases first
  | cons piece pieces ih =>
    have shown : Text.visible ((piece :: pieces).flatMap (',' :: ·)) =
        ',' :: (Text.visible piece ++ Text.visible (pieces.flatMap (',' :: ·))) := by
      rw [List.flatMap_cons, Text.visible_append]
      rfl
    rw [shown]
    cases blank : Text.isBlank piece with
    | true =>
      rw [ofPieces_cons_of_blank blank] at first
      obtain ⟨count, rest, found⟩ := ih first
      exact ⟨count + 1, rest, by rw [found, Text.visible_of_blank blank]; rfl⟩
    | false =>
      rw [ofPieces_cons_of_visible blank] at first
      obtain ⟨rfl, -⟩ := List.cons.inj first
      exact ⟨0, _, by rw [Text.visible_trim]; rfl⟩

/-- With more commas in front, what is visible of a solid segment is another text. -/
theorem Solid.replicate_append_ne {segment : List Char} (solid : Solid segment) (count : Nat) (rest rest' : List Char) :
    List.replicate (count + 1) ',' ++ (Text.visible segment ++ rest) ≠ Text.visible segment ++ rest' := by
  intro same
  obtain ⟨c, mem, other⟩ := solid
  have inside : (Text.visible segment).findIdx (· != ',') < (Text.visible segment).length :=
    List.findIdx_lt_length.2 ⟨c, mem, by simpa using other⟩
  have behind : ¬ (List.replicate (count + 1) ',').findIdx (· != ',') < (List.replicate (count + 1) ',').length := by
    rw [List.findIdx_lt_length]
    simp
  have first := congrArg (List.findIdx (· != ',')) same
  rw [List.findIdx_append, if_neg behind, List.findIdx_append, if_pos inside, List.findIdx_append, if_pos inside,
    List.length_replicate] at first
  omega

/-- A blank piece is not confused with one that is a solid segment. -/
theorem append_ne_of_blank {piece piece' : List Char} {pieces pieces' : List (List Char)}
    (blank : Text.isBlank piece = true) (visible : Text.isBlank piece' = false)
    (segments : ofPieces (piece :: pieces) = ofPieces (piece' :: pieces')) (solid : Solid (Text.trim piece')) :
    piece ++ pieces.flatMap (',' :: ·) ≠ piece' ++ pieces'.flatMap (',' :: ·) := by
  intro same
  rw [ofPieces_cons_of_blank blank, ofPieces_cons_of_visible visible] at segments
  obtain ⟨count, rest, found⟩ := exists_visible_flatMap segments
  have shown := congrArg Text.visible same
  rw [Text.visible_append, Text.visible_of_blank blank, List.nil_append, found, Text.visible_append,
    ← Text.visible_trim piece'] at shown
  exact solid.replicate_append_ne count rest _ shown

/-- What follows two pieces with the same segment is the same, since only white space stands before its comma. -/
theorem flatMap_eq_of_trim_eq {piece piece' : List Char} {pieces pieces' : List (List Char)}
    (visible : Text.isBlank piece = false) (visible' : Text.isBlank piece' = false)
    (trimmed : Text.trim piece = Text.trim piece')
    (same : piece ++ pieces.flatMap (',' :: ·) = piece' ++ pieces'.flatMap (',' :: ·)) :
    pieces.flatMap (',' :: ·) = pieces'.flatMap (',' :: ·) := by
  obtain ⟨gap, blank, split⟩ := Text.exists_trim_gap piece
  obtain ⟨gap', blank', split'⟩ := Text.exists_trim_gap piece'
  have begun := congrArg Text.trimStart same
  rw [Text.trimStart_append_of_visible visible, Text.trimStart_append_of_visible visible', split, split', trimmed,
    List.append_assoc, List.append_assoc] at begun
  have absent := Text.not_mem_of_blank (c := ',') blank (by decide)
  have absent' := Text.not_mem_of_blank (c := ',') blank' (by decide)
  exact (flatMap_eq_of_append_eq absent absent' (List.append_cancel_left begun)).2

/-- Pieces are told by the text they make and by their segments, when these are solid. -/
theorem eq_of_flatMap_eq {pieces pieces' : List (List Char)}
    (same : pieces.flatMap (',' :: ·) = pieces'.flatMap (',' :: ·)) (segments : ofPieces pieces = ofPieces pieces')
    (solid : ∀ segment ∈ ofPieces pieces, Solid segment) : pieces = pieces' := by
  induction pieces generalizing pieces' with
  | nil =>
    cases pieces' with
    | nil => rfl
    | cons piece pieces' => cases same
  | cons piece pieces ih =>
    cases pieces' with
    | nil => cases same
    | cons piece' pieces' =>
      replace same : piece ++ pieces.flatMap (',' :: ·) = piece' ++ pieces'.flatMap (',' :: ·) :=
        (List.cons.inj same).2
      cases blank : Text.isBlank piece with
      | true =>
        cases blank' : Text.isBlank piece' with
        | true =>
          have absent := Text.not_mem_of_blank (c := ',') blank (by decide)
          have absent' := Text.not_mem_of_blank (c := ',') blank' (by decide)
          obtain ⟨rfl, later⟩ := flatMap_eq_of_append_eq absent absent' same
          rw [ofPieces_cons_of_blank blank] at segments solid
          rw [ofPieces_cons_of_blank blank] at segments
          rw [ih later segments solid]
        | false =>
          have begun := trim_mem_ofPieces_of_visible blank' pieces'
          rw [← segments] at begun
          exact absurd same (append_ne_of_blank blank blank' segments (solid _ begun))
      | false =>
        have begun := trim_mem_ofPieces_of_visible blank pieces
        cases blank' : Text.isBlank piece' with
        | true => exact absurd same.symm (append_ne_of_blank blank' blank segments.symm (solid _ begun))
        | false =>
          rw [ofPieces_cons_of_visible blank] at segments solid
          rw [ofPieces_cons_of_visible blank'] at segments
          obtain ⟨trimmed, others⟩ := List.cons.inj segments
          have later := flatMap_eq_of_trim_eq blank blank' trimmed same
          rw [later] at same
          have solid' : ∀ segment ∈ ofPieces pieces, Solid segment := fun segment mem =>
            solid segment (List.mem_cons_of_mem _ mem)
          rw [List.append_cancel_right same, ih later others solid']

/-! ## The commas of filter text -/

theorem Apart.whole_of_mem {pieces : List (List Char)} (apart : Apart pieces) {piece : List Char}
    (mem : piece ∈ pieces) : Whole piece := by
  induction pieces with
  | nil => cases mem
  | cons first pieces ih =>
    obtain ⟨whole, -, others⟩ := apart
    rcases List.mem_cons.1 mem with rfl | later
    · exact whole
    · exact ih others later

theorem tidy_of_mem_ofText {text segment : List Char} (mem : segment ∈ ofText text) : Text.Tidy segment := by
  obtain ⟨trimmed, nonempty⟩ := List.mem_filter.1 mem
  obtain ⟨piece, -, rfl⟩ := List.mem_map.1 trimmed
  refine Text.tidy_trim ?_
  rw [← Text.isEmpty_trim]
  simpa using nonempty

/-- A comma in a segment is followed, in that segment, by the end of the list it stands in. -/
theorem closes_of_mem_ofText {text segment before after : List Char} (mem : segment ∈ ofText text)
    (split : segment = before ++ ',' :: after) : ∃ inside rest, after = inside ++ ')' :: rest ∧ '(' ∉ inside :=
  closesFirst_eq_true_iff.1 (whole_iff.1 ((apart_ofText text).whole_of_mem mem) before after split)

theorem solid_of_mem_ofText {text segment : List Char} (mem : segment ∈ ofText text) : Solid segment := by
  have shown {c : Char} (found : c ∈ segment) (visible : Text.isSpace c = false) : c ∈ Text.visible segment :=
    List.mem_filter.2 ⟨found, by simp [visible]⟩
  obtain ⟨c, first, visible⟩ := (tidy_of_mem_ofText mem).first
  by_cases comma : c = ','
  · obtain ⟨rest, rfl⟩ := List.head?_eq_some_iff.1 first
    have leading : c :: rest = [] ++ ',' :: rest := by
      rw [comma]
      rfl
    obtain ⟨inside, later, rfl, -⟩ := closes_of_mem_ofText mem leading
    exact ⟨')', shown (by simp) (by decide), by decide⟩
  · exact ⟨c, shown (List.mem_of_head? first) visible, comma⟩

/-- The commas after which no list is closed first. -/
def separators (text : List Char) : CommaChoice text where
  places := Text.separatorPlaces separates text
  rising := Text.pairwise_separatorPlaces separates text
  commas := by
    intro place mem
    obtain ⟨c, here, separated⟩ := Text.mem_separatorPlaces_iff.1 mem
    rw [here, eq_comma_of_separates separated]

theorem mem_separators_iff {text : List Char} {place : Nat} :
    place ∈ (separators text).places ↔ text[place]? = some ',' ∧ OpensFirst (text.drop (place + 1)) := by
  rw [← closesFirst_eq_false_iff]
  refine Text.mem_separatorPlaces_iff.trans ⟨?_, fun ⟨here, opens⟩ => ⟨',', here, by simp [separates, opens]⟩⟩
  rintro ⟨c, here, separated⟩
  obtain rfl := eq_comma_of_separates separated
  exact ⟨here, by simpa [separates] using separated⟩

theorem segments_separators (text : List Char) : (separators text).segments = ofText text := by
  rw [CommaChoice.segments_eq, CommaChoice.pieces, separators, ← Text.splitWhere_eq_piecesFrom]
  rfl

/-- **One choice of commas gives the segments.** It is that of the commas after which the first parenthesis, if there
is one, is an opening one. Joined again with commas its pieces are the text, and a comma left in a segment is
followed there by a closing parenthesis before any opening one. -/
theorem separators_unique (text : List Char) :
    (∃ choice : CommaChoice text,
      (∀ place, place ∈ choice.places ↔ text[place]? = some ',' ∧ OpensFirst (text.drop (place + 1)))
        ∧ (∀ other : CommaChoice text, ofText text = other.segments ↔ other = choice)
        ∧ Text.joinWith ',' choice.pieces = text)
      ∧ ∀ segment ∈ ofText text, ∀ before after, segment = before ++ ',' :: after →
        ∃ inside rest, after = inside ++ ')' :: rest ∧ '(' ∉ inside := by
  refine ⟨⟨separators text, fun _ => mem_separators_iff, fun other => ⟨fun same => ?_, ?_⟩,
    (separators text).joinWith_pieces⟩, fun segment mem _ _ => closes_of_mem_ofText mem⟩
  · apply CommaChoice.eq_of_pieces_eq
    have joined : ',' :: Text.joinWith ',' other.pieces = ',' :: Text.joinWith ',' (separators text).pieces := by
      rw [other.joinWith_pieces, (separators text).joinWith_pieces]
    rw [Text.cons_joinWith other.pieces_ne_nil, Text.cons_joinWith (separators text).pieces_ne_nil] at joined
    have segments := same.symm.trans (segments_separators text).symm
    rw [CommaChoice.segments_eq, CommaChoice.segments_eq] at segments
    refine eq_of_flatMap_eq joined segments fun segment mem => ?_
    rw [← CommaChoice.segments_eq, ← same] at mem
    exact solid_of_mem_ofText mem
  · rintro rfl
    exact (segments_separators text).symm

end FilterSegment

namespace Sample

/-- A list, a blank segment, and a parenthesis that is never closed. -/
def openedText : String := "tags:in:(ä,b), ,name:eq:x(y,age:gt:5"

end Sample

open Sample in
/-- The comma of the list is left in its segment, and the one after the parenthesis that stays open separates. -/
theorem FilterSegment.separators_unique_openedText :
    "tags:in:(ä,b)".toList ∈ ofText openedText.toList
      ∧ (∃ choice : CommaChoice openedText.toList, 10 ∉ choice.places ∧ 27 ∈ choice.places
        ∧ ofText openedText.toList = choice.segments)
      ∧ "tags:in:(ä,b)".toList = "tags:in:(ä".toList ++ ',' :: ['b', ')']
      ∧ ∃ inside rest, ['b', ')'] = inside ++ ')' :: rest ∧ '(' ∉ inside := by
  have listed : "tags:in:(ä,b)".toList ∈ ofText openedText.toList := by decide +kernel
  obtain ⟨⟨choice, chosen, only, -⟩, closed⟩ := separators_unique openedText.toList
  have kept : ¬ OpensFirst (openedText.toList.drop 11) := by
    rw [← closesFirst_eq_false_iff]
    decide +kernel
  have opens : OpensFirst (openedText.toList.drop 28) := by
    rw [← closesFirst_eq_false_iff]
    decide +kernel
  exact ⟨listed, ⟨choice, fun mem => kept ((chosen 10).1 mem).2, (chosen 27).2 ⟨by decide +kernel, opens⟩,
    (only choice).2 rfl⟩, rfl, closed _ listed "tags:in:(ä".toList _ rfl⟩

end QueryFilter
