import Courier.Proofs.Splitting
import Mathlib.Data.List.Induction

set_option autoImplicit false

/- The grammar of a line. A line is a row of cells with a delimiter between two; a cell is text as
   it stands, or a value in quotes with text around it. Splitting accepts these lines and gives the
   values of their cells; every other line leaves its last quote open. -/
namespace Courier.Text

theorem intercalate_concat (d : Char) (parts : List Text) (last : Text) (nonempty : parts ≠ []) :
    [d].intercalate (parts ++ [last]) = [d].intercalate parts ++ d :: last := by
  induction parts with
  | nil => exact absurd rfl nonempty
  | cons part parts ih =>
    cases parts with
    | nil => simp
    | cons next rest =>
      have later := ih (List.cons_ne_nil next rest)
      rw [List.cons_append] at later
      rw [List.cons_append, List.cons_append, List.intercalate_cons_cons, later,
        List.intercalate_cons_cons]
      simp

theorem intercalate_grown (d : Char) (parts : List Text) (last more : Text) :
    [d].intercalate (parts ++ [last ++ more]) = [d].intercalate (parts ++ [last]) ++ more := by
  cases parts with
  | nil => simp
  | cons part parts =>
    have nonempty := List.cons_ne_nil part parts
    rw [intercalate_concat d _ _ nonempty, intercalate_concat d _ _ nonempty]
    simp

end Courier.Text

namespace Courier.Fields

def Bare (t : Text) : Prop :=
  ∀ lead after, t = lead ++ '"' :: after → Text.allBlank lead = false

structure Opening (d : Char) (lead : Text) : Prop where
  other : d ≠ '"'
  blank : Text.allBlank lead = true
  apart : d ∉ lead

structure Ending (d : Char) (rest : Text) : Prop where
  apart : d ∉ rest
  closed : rest.head? ≠ some '"'

def kept (trim : Bool) (rest : Text) : Text :=
  if trim then rest.filter fun c => !Text.isBlank c else rest

inductive Cell (d : Char) (trim : Bool) : Text → Text → Prop where
  | bare (t : Text) : d ∉ t → Bare t → Cell d trim t (if trim then Text.trim t else t)
  | quoted (lead value rest : Text) : Opening d lead → Ending d rest →
    Cell d trim (lead ++ Writer.quote value ++ rest) (value ++ kept trim rest)

inductive Unclosed (d : Char) : Text → Prop where
  | opened (lead value : Text) : Opening d lead → Unclosed d (lead ++ '"' :: Writer.escape value)

def Splits (d : Char) (trim : Bool) (line : Text) (fields : List Text) : Prop :=
  ∃ cells, cells ≠ [] ∧ line = [d].intercalate cells ∧ List.Forall₂ (Cell d trim) cells fields

def LeftOpen (d : Char) (trim : Bool) (line : Text) : Prop :=
  ∃ cells fields last, line = [d].intercalate (cells ++ [last]) ∧
    List.Forall₂ (Cell d trim) cells fields ∧ Unclosed d last

variable {d : Char} {trim : Bool}

theorem bare_blank (t : Text) (blank : Text.allBlank t = true) : Bare t := by
  rintro lead after rfl
  rw [Text.allBlank, List.all_append, List.all_cons, Bool.and_eq_true, Bool.and_eq_true] at blank
  exact absurd blank.2.1 (by decide)

theorem bare_left (t more : Text) (bare : Bare (t ++ more)) : Bare t := by
  rintro lead after rfl
  exact bare lead (after ++ more) (by simp)

theorem bare_concat (t : Text) (c : Char) (bare : Bare t)
    (text : c = '"' → Text.allBlank t = false) : Bare (t ++ [c]) := by
  intro lead after same
  rcases List.eq_nil_or_concat after with rfl | ⟨front, last, rfl⟩
  · obtain ⟨rfl, quote⟩ := List.append_inj' same rfl
    exact text (List.cons.inj quote).1
  · rw [List.concat_eq_append, ← List.cons_append, ← List.append_assoc] at same
    exact bare lead front (List.append_inj' same rfl).1

theorem opening_bare (lead : Text) (opening : Opening d lead) : Bare lead :=
  bare_blank lead opening.blank

theorem fold_bare (done : List Text) (t : Text) (apart : d ∉ t) (bare : Bare t) :
    t.foldl (step d trim) { complete := done } = { complete := done, field := t.reverse } := by
  induction t using List.reverseRecOn with
  | nil => rfl
  | append_singleton t c ih =>
    rw [List.mem_append, not_or, List.mem_singleton] at apart
    have text : c = '"' → Text.allBlank t.reverse = false := by
      rintro rfl
      rw [Text.allBlank, List.all_reverse]
      exact bare t [] rfl
    have push : step d trim { complete := done, field := t.reverse } c =
        { complete := done, field := c :: t.reverse } := by
      simp only [step, outside]
      rw [if_neg (by simpa using Ne.symm apart.2), if_neg, if_neg (by simp)]
      simpa using text
    rw [List.foldl_append, ih apart.1 (bare_left t [c] bare), List.foldl_cons, push,
      List.foldl_nil, List.reverse_append]
    rfl

theorem fold_opening (done : List Text) (lead : Text) (opening : Opening d lead) :
    (lead ++ ['"']).foldl (step d trim) { complete := done } =
      { complete := done, place := .inside } := by
  have blank : Text.allBlank lead.reverse = true := by
    rw [Text.allBlank, List.all_reverse]
    exact opening.blank
  rw [List.foldl_append, fold_bare done lead opening.apart (opening_bare lead opening)]
  simp [step, outside, Ne.symm opening.other, blank]

theorem fold_unclosed (done : List Text) (lead value : Text) (opening : Opening d lead) :
    (lead ++ '"' :: Writer.escape value).foldl (step d trim) { complete := done } =
      { complete := done, place := .inside, field := value.reverse } := by
  rw [List.append_cons, List.foldl_append, fold_opening done lead opening, fold_escape,
    List.append_nil]

theorem fold_quoted (done : List Text) (lead value : Text) (opening : Opening d lead) :
    (lead ++ Writer.quote value).foldl (step d trim) { complete := done } =
      { complete := done, place := .quote, field := value.reverse } := by
  rw [Writer.quote, ← List.append_assoc, List.foldl_append,
    fold_unclosed done lead value opening]
  simp [step]

theorem outside_after (done : List Text) (field : Text) (c : Char) (apart : d ≠ c) :
    outside d trim { complete := done, place := .after, field } c =
      { complete := done, place := .after, field := (kept trim [c]).reverse ++ field } := by
  unfold outside kept
  cases trim with
  | false => simp [Ne.symm apart]
  | true =>
    by_cases blank : Text.isBlank c = true
    · simp [Ne.symm apart, blank]
    · simp [Ne.symm apart, blank]

theorem kept_append (rest more : Text) :
    kept trim (rest ++ more) = kept trim rest ++ kept trim more := by
  cases trim with
  | false => rfl
  | true => exact List.filter_append rest more

theorem fold_after (done : List Text) (field rest : Text) (apart : d ∉ rest) :
    rest.foldl (step d trim) { complete := done, place := .after, field } =
      { complete := done, place := .after, field := (kept trim rest).reverse ++ field } := by
  induction rest generalizing field with
  | nil => cases trim <;> rfl
  | cons c rest ih =>
    rw [List.mem_cons, not_or] at apart
    have one : step d trim { complete := done, place := .after, field } c =
        { complete := done, place := .after, field := (kept trim [c]).reverse ++ field } :=
      outside_after done field c apart.1
    have all : kept trim (c :: rest) = kept trim [c] ++ kept trim rest := kept_append [c] rest
    rw [List.foldl_cons, one, ih _ apart.2, all, List.reverse_append, List.append_assoc]

theorem fold_ending (done : List Text) (field rest : Text) (c : Char)
    (ending : Ending d (c :: rest)) :
    (c :: rest).foldl (step d trim) { complete := done, place := .quote, field } =
      { complete := done, place := .after, field := (kept trim (c :: rest)).reverse ++ field } := by
  have text : c ≠ '"' := by simpa using ending.closed
  have same : step d trim { complete := done, place := .quote, field } c =
      step d trim { complete := done, place := .after, field } c := by
    simp [step, text]
  rw [List.foldl_cons, same, ← List.foldl_cons, fold_after done field (c :: rest) ending.apart]

theorem cell_split (part value : Text) (cell : Cell d trim part value) :
    split? d trim part = some [value] := by
  cases cell with
  | bare _ apart bare =>
    rw [split?, fold_bare [] part apart bare]
    simp [State.finish?, State.close]
  | quoted lead value rest opening ending =>
    rw [split?, List.foldl_append, fold_quoted [] lead value opening]
    cases rest with
    | nil => cases trim <;> simp [State.finish?, State.close, kept]
    | cons c rest =>
      rw [fold_ending [] value.reverse rest c ending]
      simp [State.finish?, State.close]

theorem unclosed_split (part : Text) (unclosed : Unclosed d part) :
    split? d trim part = none := by
  cases unclosed with
  | opened lead value opening =>
    rw [split?, fold_unclosed [] lead value opening]
    rfl

theorem splits_split (line : Text) (fields : List Text) (splits : Splits d trim line fields) :
    split? d trim line = some fields := by
  obtain ⟨cells, nonempty, rfl, each⟩ := splits
  exact split_join cells fields nonempty
    (each.imp fun part value cell => cell_split part value cell)

theorem open_split (line : Text) (leftOpen : LeftOpen d trim line) : split? d trim line = none := by
  obtain ⟨cells, fields, last, rfl, each, unclosed⟩ := leftOpen
  cases cells with
  | nil =>
    rw [List.nil_append, List.intercalate_singleton]
    exact unclosed_split last unclosed
  | cons cell cells =>
    have front := splits_split _ fields ⟨cell :: cells, List.cons_ne_nil _ _, rfl, each⟩
    rw [Text.intercalate_concat d _ _ (List.cons_ne_nil cell cells), split_append _ _ fields front,
      unclosed_split last unclosed]
    rfl

theorem escape_concat (value : Text) (c : Char) :
    Writer.escape (value ++ [c]) =
      Writer.escape value ++ if c = '"' then ['"', '"'] else [c] := by
  simp [Writer.escape, List.flatMap_append]

theorem unclosed_concat (part : Text) (c : Char) (unclosed : Unclosed d part) :
    (∃ value, Cell d trim (part ++ [c]) value) ∨ Unclosed d (part ++ [c]) := by
  cases unclosed with
  | opened lead value opening =>
    have grown := escape_concat value c
    by_cases quote : c = '"'
    · subst quote
      have cell : Cell d trim (lead ++ Writer.quote value ++ []) _ :=
        .quoted lead value [] opening ⟨by simp, by simp⟩
      exact .inl ⟨_, by simpa [Writer.quote] using cell⟩
    · rw [if_neg quote] at grown
      have unclosed := Unclosed.opened lead (value ++ [c]) opening
      rw [grown] at unclosed
      exact .inr (by simpa using unclosed)

theorem cell_concat (part value : Text) (c : Char) (cell : Cell d trim part value) (other : c ≠ d) :
    (∃ value', Cell d trim (part ++ [c]) value') ∨ Unclosed d (part ++ [c]) := by
  cases cell with
  | bare _ apart bare =>
    by_cases opens : c = '"' ∧ Text.allBlank part = true
    · obtain ⟨rfl, blank⟩ := opens
      exact .inr (.opened part [] ⟨Ne.symm other, blank, apart⟩)
    · refine .inl ⟨_, .bare (part ++ [c]) ?_ (bare_concat part c bare fun quote => ?_)⟩
      · rw [List.mem_append, List.mem_singleton, not_or]
        exact ⟨apart, Ne.symm other⟩
      · rw [← Bool.not_eq_true]
        exact fun blank => opens ⟨quote, blank⟩
  | quoted lead value rest opening ending =>
    by_cases doubled : rest = [] ∧ c = '"'
    · obtain ⟨rfl, rfl⟩ := doubled
      have unclosed := Unclosed.opened lead (value ++ ['"']) opening
      rw [escape_concat] at unclosed
      exact .inr (by simpa [Writer.quote] using unclosed)
    · have still : Ending d (rest ++ [c]) := by
        refine ⟨?_, ?_⟩
        · rw [List.mem_append, List.mem_singleton, not_or]
          exact ⟨ending.apart, Ne.symm other⟩
        · cases rest with
          | nil => simpa using doubled
          | cons a rest => exact ending.closed
      have cell : Cell d trim (lead ++ Writer.quote value ++ (rest ++ [c])) _ :=
        .quoted lead value (rest ++ [c]) opening still
      rw [← List.append_assoc] at cell
      exact .inl ⟨_, cell⟩

theorem cell_blank (d : Char) (trim : Bool) : Cell d trim [] [] := by
  have cell : Cell d trim [] _ := .bare [] (by simp) (bare_blank [] rfl)
  have nothing : (if trim then Text.trim [] else []) = [] := by cases trim <;> rfl
  rwa [nothing] at cell

theorem line_cells (d : Char) (trim : Bool) (line : Text) :
    ∃ cells fields last, line = [d].intercalate (cells ++ [last]) ∧
      List.Forall₂ (Cell d trim) cells fields ∧
        ((∃ value, Cell d trim last value) ∨ Unclosed d last) := by
  induction line using List.reverseRecOn with
  | nil => exact ⟨[], [], [], rfl, .nil, .inl ⟨[], cell_blank d trim⟩⟩
  | append_singleton line c ih =>
    obtain ⟨cells, fields, last, rfl, each, ⟨value, cell⟩ | unclosed⟩ := ih
    · by_cases ends : c = d
      · subst ends
        refine ⟨cells ++ [last], fields ++ [value], [], ?_, ?_, .inl ⟨[], cell_blank c trim⟩⟩
        · rw [Text.intercalate_concat c (cells ++ [last]) [] (by simp)]
        · exact List.rel_append each (.cons cell .nil)
      · exact ⟨cells, fields, last ++ [c], (Text.intercalate_grown d cells last [c]).symm, each,
          cell_concat last value c cell ends⟩
    · exact ⟨cells, fields, last ++ [c], (Text.intercalate_grown d cells last [c]).symm, each,
        unclosed_concat last c unclosed⟩

theorem splits_or_open (d : Char) (trim : Bool) (line : Text) :
    (∃ fields, Splits d trim line fields) ∨ LeftOpen d trim line := by
  obtain ⟨cells, fields, last, same, each, ⟨value, cell⟩ | unclosed⟩ := line_cells d trim line
  · exact .inl ⟨fields ++ [value], cells ++ [last], by simp, same,
      List.rel_append each (.cons cell .nil)⟩
  · exact .inr ⟨cells, fields, last, same, each, unclosed⟩

theorem split_iff (d : Char) (trim : Bool) (line : Text) (fields : List Text) :
    split? d trim line = some fields ↔ Splits d trim line fields := by
  refine ⟨fun split => ?_, splits_split line fields⟩
  rcases splits_or_open d trim line with ⟨others, splits⟩ | leftOpen
  · have same := (splits_split line others splits).symm.trans split
    exact Option.some.inj same ▸ splits
  · rw [open_split line leftOpen] at split
    cases split

theorem split_none_iff (d : Char) (trim : Bool) (line : Text) :
    split? d trim line = none ↔ LeftOpen d trim line := by
  refine ⟨fun split => ?_, open_split line⟩
  rcases splits_or_open d trim line with ⟨others, splits⟩ | leftOpen
  · rw [splits_split line others splits] at split
    cases split
  · exact leftOpen

def Margin (d : Char) (t : Text) : Prop := ∀ c ∈ t, Text.isBlank c = true ∧ c ≠ d

theorem margin_opening (lead : Text) (other : d ≠ '"') (margin : Margin d lead) :
    Opening d lead where
  other := other
  blank := List.all_eq_true.mpr fun c member => (margin c member).1
  apart member := (margin d member).2 rfl

theorem margin_ending (rest : Text) (margin : Margin d rest) : Ending d rest where
  apart member := (margin d member).2 rfl
  closed first := by
    have blank := (margin '"' (List.mem_of_head? first)).1
    exact absurd blank (by decide)

theorem kept_margin (rest : Text) (margin : Margin d rest) :
    kept trim rest = if trim then [] else rest := by
  have none_kept : (rest.filter fun c => !Text.isBlank c) = [] := by
    rw [List.filter_eq_nil_iff]
    intro c member
    simp [(margin c member).1]
  rw [kept, none_kept]

theorem split_unquoted (line : Text) (unquoted : '"' ∉ line) :
    split? d trim line =
      some ((line.splitOn d).map fun piece => if trim then Text.trim piece else piece) := by
  have piece (t : Text) (within : ∀ c ∈ t, c ≠ '"') (apart : d ∉ t) :
      split? d trim t = some [if trim then Text.trim t else t] := by
    refine split_plain t fun c member => ⟨?_, within c member⟩
    rintro rfl
    exact apart member
  induction length : line.length using Nat.strongRecOn generalizing line with
  | ind n ih =>
    by_cases held : d ∈ line
    · obtain ⟨front, rest, rfl, apart⟩ := List.eq_append_cons_of_mem held
      rw [List.mem_append, List.mem_cons, not_or, not_or] at unquoted
      have shorter : rest.length < n := by
        rw [← length, List.length_append, List.length_cons]
        omega
      have first := piece front (fun c member same => unquoted.1 (same ▸ member)) apart
      have cut : (front ++ d :: rest).splitOn d = front.splitOn d ++ rest.splitOn d :=
        List.splitOnP_append_cons front rest (beq_self_eq_true d)
      rw [split_append front rest _ first, ih _ shorter rest unquoted.2.2 rfl, cut,
        List.splitOn_eq_singleton apart]
      rfl
    · rw [piece line (fun c member same => unquoted (same ▸ member)) held,
        List.splitOn_eq_singleton held]
      rfl

-- A delimiter outside quotes starts afresh, and quotes keep a value as it is.
structure Laws (d : Char) (trim : Bool) : Prop where
  append : ∀ a b fields, split? d trim a = some fields →
    split? d trim (a ++ d :: b) = (split? d trim b).map (fields ++ ·)
  unquoted : ∀ line, '"' ∉ line → split? d trim line =
    some ((line.splitOn d).map fun piece => if trim then Text.trim piece else piece)
  quoted : d ≠ '"' → ∀ lead value rest, Margin d lead → Margin d rest →
    split? d trim (lead ++ ['"'] ++ Writer.escape value ++ ['"'] ++ rest) =
      some [if trim then value else value ++ rest]
  unclosed : d ≠ '"' → ∀ lead value, Margin d lead →
    split? d trim (lead ++ ['"'] ++ Writer.escape value) = none

/-- A delimiter outside quotes splits a line in two, and quotes keep a value as it is. -/
theorem split_laws (d : Char) (trim : Bool) : Laws d trim where
  append := split_append
  unquoted := split_unquoted
  quoted other lead value rest before behind := by
    have cell : Cell d trim (lead ++ Writer.quote value ++ rest) (value ++ kept trim rest) :=
      .quoted lead value rest (margin_opening lead other before) (margin_ending rest behind)
    have split := cell_split _ _ cell
    rw [kept_margin rest behind] at split
    cases trim with
    | true => simpa [Writer.quote] using split
    | false => simpa [Writer.quote] using split
  unclosed other lead value before := by
    rw [← List.append_cons]
    exact unclosed_split _ (.opened lead value (margin_opening lead other before))

end Courier.Fields
