import Mathlib.Data.Set.Subsingleton
import NameRouting.Proofs.Name.RoundTrip

/-!
# The grammar of written names

A written name is a sequence of segments with a separator between neighbours.  The
letters of a segment stand between quotes or by themselves, and each letter is
written as it is or behind a backslash.  What may be written depends on what follows:
between quotes a backslash by itself must not read as a mark, and a lone backslash at
the end of a segment must be the end of the whole text.

The reader accepts these texts and no others.  It goes from left to right, but nothing
depends on that: a text is written by one sequence of segments at most.
-/

namespace NameRouting

/-- A letter of a component as it is written. -/
inductive Letter where
  | bare (c : Char)
  | marked (c : Char)
deriving DecidableEq, Inhabited, Repr

/-- A segment of a written name: letters between quotes, or letters by themselves and
perhaps a lone backslash behind them. -/
inductive Segment where
  | quoted (quote : Char) (letters : List Letter)
  | plain (letters : List Letter) (stray : Bool)
deriving DecidableEq, Inhabited, Repr

/-- A written name as its segments, the last of which is always there. -/
structure Writing where
  earlier : List Segment
  last : Segment
deriving DecidableEq, Inhabited, Repr

namespace Letter

/-- The text of a letter. -/
def text : Letter → List Char
  | bare c => [c]
  | marked c => ['\\', c]

/-- The character that a letter stands for. -/
def value : Letter → Char
  | bare c | marked c => c

/-- Whether a text between quotes starts with a mark and what it marks. -/
def startsMark (quote : Char) : List Char → Bool
  | '\\' :: d :: _ => d == quote || d == '\\'
  | _ => false

/-- Whether letters can be written between quotes: only the quote and the backslash
are marked there, and no letter by itself ends the segment or starts a mark. -/
def fitQuotes (quote : Char) : List Letter → Bool
  | [] => true
  | bare c :: rest =>
    c != quote && !startsMark quote (c :: (rest.flatMap text ++ [quote])) &&
      fitQuotes quote rest
  | marked c :: rest => (c == quote || c == '\\') && fitQuotes quote rest

/-- Whether a letter can be written without quotes. -/
def fitsPlain : Letter → Bool
  | bare c => c != '/' && c != '\\'
  | marked _ => true

end Letter

namespace Segment

/-- The lone backslash at the end of a segment, if there is one. -/
def strayText (stray : Bool) : List Char :=
  if stray then ['\\'] else []

/-- The text of a segment. -/
def text : Segment → List Char
  | quoted quote letters => quote :: (letters.flatMap Letter.text ++ [quote])
  | plain letters stray => letters.flatMap Letter.text ++ strayText stray

/-- The component that a segment denotes. -/
def value : Segment → List Char
  | quoted _ letters => letters.map Letter.value
  | plain letters stray => letters.map Letter.value ++ strayText stray

/-- Whether letters without quotes start with something other than a quote. -/
def startsPlain : List Letter → Bool
  | .bare c :: _ => !CompositeName.isQuote c
  | _ => true

/-- Whether a segment can be written, at the end of a text or before a separator. -/
def isProper (atEnd : Bool) : Segment → Bool
  | quoted quote letters => CompositeName.isQuote quote && Letter.fitQuotes quote letters
  | plain letters stray =>
    startsPlain letters && letters.all Letter.fitsPlain && (atEnd || !stray)

theorem eq_plain_of_text_eq_nil {part : Segment} (htext : part.text = []) :
    part = .plain [] false := by
  cases part with
  | quoted quote letters => exact nomatch htext
  | plain letters stray =>
      cases letters with
      | nil =>
          cases stray with
          | false => rfl
          | true => exact nomatch htext
      | cons letter letters => cases letter <;> exact nomatch htext

end Segment

namespace Writing

/-- The text of a written name. -/
def text (writing : Writing) : List Char :=
  (writing.earlier.flatMap fun segment => segment.text ++ ['/']) ++ writing.last.text

/-- Whether all segments can be written where they stand. -/
def isProper (writing : Writing) : Bool :=
  writing.earlier.all (Segment.isProper false) && writing.last.isProper true

/-- A last segment without any character closes the segments before it, as long as
they are all empty. -/
def closes (writing : Writing) : Bool :=
  writing.last.text.isEmpty && writing.earlier.all (·.value.isEmpty)

/-- The components that a written name denotes. -/
def components (writing : Writing) : List (List Char) :=
  writing.earlier.map Segment.value ++ if writing.closes then [] else [writing.last.value]

/-- The name that a written name denotes. -/
def name (writing : Writing) : CompositeName :=
  ⟨writing.components.map String.ofList⟩

/-- The writing is a reading of the text. -/
def Writes (writing : Writing) (text : String) : Prop :=
  writing.isProper = true ∧ writing.text = text.toList

theorem text_eq_nil_iff {earlier : List Segment} {last : Segment} :
    (⟨earlier, last⟩ : Writing).text = [] ↔ earlier = [] ∧ last = .plain [] false := by
  constructor
  · intro htext
    cases earlier with
    | nil => exact ⟨rfl, Segment.eq_plain_of_text_eq_nil htext⟩
    | cons part earlier => simp [Writing.text] at htext
  · rintro ⟨rfl, rfl⟩
    rfl

theorem text_cons (part last : Segment) (earlier : List Segment) :
    (⟨part :: earlier, last⟩ : Writing).text =
      part.text ++ '/' :: (⟨earlier, last⟩ : Writing).text := by
  simp [Writing.text]

end Writing

namespace CompositeName

/-! ## Letters without quotes -/

/-- Letters are read one by one, whatever stands behind them. -/
theorem plainSegment_letters {letters : List Letter}
    (hletters : letters.all Letter.fitsPlain = true) (tail : List Char) :
    plainSegment (letters.flatMap Letter.text ++ tail) =
      (letters.map Letter.value ++ (plainSegment tail).1, (plainSegment tail).2) := by
  induction letters with
  | nil => rfl
  | cons letter letters ih =>
      rw [List.all_cons, Bool.and_eq_true] at hletters
      have hrest := ih hletters.2
      cases letter with
      | bare c =>
          have hc : c ≠ '/' ∧ c ≠ '\\' := by
            simpa [Letter.fitsPlain] using hletters.1
          rw [List.flatMap_cons, Letter.text, List.append_assoc, List.singleton_append,
            plainSegment_cons_of_ordinary hc.1 hc.2, hrest]
          rfl
      | marked c =>
          change plainSegment ('\\' :: c :: (letters.flatMap Letter.text ++ tail)) = _
          rw [plainSegment_marked, hrest]
          rfl

theorem plainSegment_strayText {stray : Bool} {rest : List Char}
    (hrest : StartsApart rest) (hstray : stray = true → rest = []) :
    plainSegment (Segment.strayText stray ++ rest) = (Segment.strayText stray, rest) := by
  cases stray with
  | false => exact plainSegment_of_startsApart hrest
  | true =>
      rw [hstray rfl]
      rfl

/-- What is read without quotes consists of letters, up to a separator or the end. -/
theorem exists_letters_of_plainSegment (cs : List Char) :
    ∃ (letters : List Letter) (stray : Bool), letters.all Letter.fitsPlain = true ∧
      (plainSegment cs).1 = letters.map Letter.value ++ Segment.strayText stray ∧
      cs = letters.flatMap Letter.text ++ (Segment.strayText stray ++ (plainSegment cs).2) ∧
      StartsApart (plainSegment cs).2 ∧ (stray = true → (plainSegment cs).2 = []) := by
  fun_induction plainSegment cs with
  | case1 => exact ⟨[], false, rfl, rfl, rfl, startsApart_nil, fun _ => rfl⟩
  | case2 => exact ⟨[], false, rfl, rfl, rfl, startsApart_separator [],
      fun hfalse => absurd hfalse Bool.false_ne_true⟩
  | case3 c hseparator =>
      by_cases hmark : c = '\\'
      · subst hmark
        exact ⟨[], true, rfl, rfl, rfl, startsApart_nil, fun _ => rfl⟩
      · refine ⟨[.bare c], false, ?_, rfl, rfl, startsApart_nil, fun _ => rfl⟩
        simp [Letter.fitsPlain, hseparator, hmark]
  | case4 d rest => exact ⟨[], false, rfl, rfl, rfl, startsApart_separator _,
      fun hfalse => absurd hfalse Bool.false_ne_true⟩
  | case5 d rest _ ih =>
      obtain ⟨letters, stray, hfits, hvalue, htext, hapart, hstray⟩ := ih
      refine ⟨.marked d :: letters, stray, hfits, ?_, ?_, hapart, hstray⟩
      · simp [hvalue, Letter.value]
      · conv_lhs => rw [htext]
        rfl
  | case6 c d rest hseparator hmark ih =>
      obtain ⟨letters, stray, hfits, hvalue, htext, hapart, hstray⟩ := ih
      refine ⟨.bare c :: letters, stray, ?_, ?_, ?_, hapart, hstray⟩
      · simpa [Letter.fitsPlain, hseparator, hmark] using hfits
      · simp [hvalue, Letter.value]
      · conv_lhs => rw [htext]
        rfl

/-! ## Letters between quotes -/

theorem startsMark_cons_iff {quote c d : Char} {rest : List Char} :
    Letter.startsMark quote (c :: d :: rest) = true ↔
      c = '\\' ∧ (d = quote ∨ d = '\\') := by
  by_cases hc : c = '\\'
  · simp [Letter.startsMark, hc]
  · simp [Letter.startsMark, hc]

/-- Whether a mark starts here does not depend on what follows the closing quote. -/
theorem startsMark_closed (quote c : Char) (cs after : List Char) :
    Letter.startsMark quote (c :: (cs ++ quote :: after)) =
      Letter.startsMark quote (c :: (cs ++ [quote])) := by
  rw [Bool.eq_iff_iff]
  cases cs <;> simp only [List.nil_append, List.cons_append, startsMark_cons_iff]

theorem quotedSegment_quote (quote : Char) (rest : List Char) :
    quotedSegment quote (quote :: rest) = some ([], rest) := by
  cases rest <;> simp [quotedSegment]

theorem quotedSegment_marked {quote d : Char} (hquote : quote ≠ '\\')
    (hd : d = quote ∨ d = '\\') (rest : List Char) :
    quotedSegment quote ('\\' :: d :: rest) =
      (quotedSegment quote rest).map fun (chars, after) => (d :: chars, after) := by
  rw [quotedSegment, if_neg (Ne.symm hquote), if_pos ⟨rfl, hd⟩]

theorem quotedSegment_bare {quote c : Char} {rest : List Char} (hc : c ≠ quote)
    (hrest : rest ≠ []) (hmark : Letter.startsMark quote (c :: rest) = false) :
    quotedSegment quote (c :: rest) =
      (quotedSegment quote rest).map fun (chars, after) => (c :: chars, after) := by
  obtain ⟨d, rest, rfl⟩ := List.exists_cons_of_ne_nil hrest
  have hnone : ¬ (c = '\\' ∧ (d = quote ∨ d = '\\')) := by
    rw [← startsMark_cons_iff, hmark]
    exact Bool.false_ne_true
  rw [quotedSegment, if_neg hc, if_neg hnone]

theorem ne_mark_of_isQuote {quote : Char} (hquote : isQuote quote = true) :
    quote ≠ '\\' := by
  rintro rfl
  exact absurd hquote (by decide)

/-- Letters that fit between quotes are read up to the closing quote. -/
theorem quotedSegment_letters {quote : Char} {letters : List Letter}
    (hquote : isQuote quote = true) (hfit : Letter.fitQuotes quote letters = true)
    (rest : List Char) :
    quotedSegment quote (letters.flatMap Letter.text ++ quote :: rest) =
      some (letters.map Letter.value, rest) := by
  induction letters with
  | nil => exact quotedSegment_quote quote rest
  | cons letter letters ih =>
      cases letter with
      | bare c =>
          simp only [Letter.fitQuotes, Bool.and_eq_true, bne_iff_ne,
            Bool.not_eq_true'] at hfit
          obtain ⟨⟨hc, hmark⟩, hletters⟩ := hfit
          have hnext : Letter.startsMark quote
              (c :: (letters.flatMap Letter.text ++ quote :: rest)) = false := by
            rw [startsMark_closed, hmark]
          change quotedSegment quote
            (c :: (letters.flatMap Letter.text ++ quote :: rest)) = _
          rw [quotedSegment_bare hc (by simp) hnext, ih hletters]
          rfl
      | marked c =>
          simp only [Letter.fitQuotes, Bool.and_eq_true, Bool.or_eq_true,
            beq_iff_eq] at hfit
          change quotedSegment quote
            ('\\' :: c :: (letters.flatMap Letter.text ++ quote :: rest)) = _
          rw [quotedSegment_marked (ne_mark_of_isQuote hquote) hfit.1, ih hfit.2]
          rfl

/-- What is read between quotes consists of letters that fit there. -/
theorem exists_letters_of_quotedSegment {quote : Char} {cs chars after : List Char}
    (hread : quotedSegment quote cs = some (chars, after)) :
    ∃ letters : List Letter, Letter.fitQuotes quote letters = true ∧
      chars = letters.map Letter.value ∧
      cs = letters.flatMap Letter.text ++ quote :: after := by
  fun_induction quotedSegment quote cs generalizing chars with
  | case1 => cases hread
  | case2 =>
      obtain ⟨rfl, rfl⟩ := Prod.mk.inj (Option.some.inj hread)
      exact ⟨[], rfl, rfl, rfl⟩
  | case3 => cases hread
  | case4 d rest =>
      obtain ⟨rfl, rfl⟩ := Prod.mk.inj (Option.some.inj hread)
      exact ⟨[], rfl, rfl, rfl⟩
  | case5 c d rest hc hmark ih =>
      obtain ⟨⟨inner, left⟩, hinner, heq⟩ := Option.map_eq_some_iff.mp hread
      obtain ⟨rfl, rfl⟩ := Prod.mk.inj heq
      obtain ⟨letters, hfit, rfl, rfl⟩ := ih hinner
      obtain ⟨rfl, hd⟩ := hmark
      refine ⟨.marked d :: letters, ?_, rfl, rfl⟩
      simpa [Letter.fitQuotes, hd] using hfit
  | case6 c d rest hc hmark ih =>
      obtain ⟨⟨inner, left⟩, hinner, heq⟩ := Option.map_eq_some_iff.mp hread
      obtain ⟨rfl, rfl⟩ := Prod.mk.inj heq
      obtain ⟨letters, hfit, rfl, htext⟩ := ih hinner
      have hnext : Letter.startsMark quote (c :: (letters.flatMap Letter.text ++ [quote])) =
          false := by
        rw [← startsMark_closed quote c _ left, ← htext, Bool.eq_false_iff]
        exact fun hstarts => hmark (startsMark_cons_iff.mp hstarts)
      refine ⟨.bare c :: letters, ?_, rfl, ?_⟩
      · simp [Letter.fitQuotes, hc, hnext, hfit]
      · rw [htext]
        rfl

/-! ## Segments -/

theorem segment_of_head {cs : List Char} (hhead : ∀ c ∈ cs.head?, isQuote c = false) :
    segment cs = .ok (plainSegment cs) := by
  cases cs with
  | nil => rfl
  | cons c rest => exact segment_cons_of_not_isQuote (hhead c rfl) rest

theorem segment_quote_iff {quote : Char} {cs chars rest : List Char}
    (hquote : isQuote quote = true) :
    segment (quote :: cs) = .ok (chars, rest) ↔
      quotedSegment quote cs = some (chars, rest) ∧ StartsApart rest := by
  rw [segment, if_pos hquote]
  constructor
  · intro hread
    split at hread
    · cases hread
    · obtain ⟨rfl, rfl⟩ := Prod.mk.inj (Except.ok.inj hread)
      exact ⟨‹_›, startsApart_nil⟩
    · split at hread
      · rename_i hseparator
        subst hseparator
        obtain ⟨rfl, rfl⟩ := Prod.mk.inj (Except.ok.inj hread)
        exact ⟨‹_›, startsApart_separator _⟩
      · cases hread
  · rintro ⟨hread, hrest⟩
    rw [hread]
    cases rest with
    | nil => rfl
    | cons c rest =>
        obtain rfl : c = '/' := hrest c rfl
        rfl

/-- No quote comes first in the text of a segment without quotes. -/
theorem head_plain {letters : List Letter} {stray : Bool} {rest : List Char}
    (hstarts : Segment.startsPlain letters = true) (hrest : StartsApart rest) :
    ∀ c ∈ (letters.flatMap Letter.text ++ (Segment.strayText stray ++ rest)).head?,
      isQuote c = false := by
  intro c hc
  cases letters with
  | nil =>
      cases stray with
      | false =>
          rw [hrest c hc]
          decide
      | true =>
          obtain rfl : '\\' = c := Option.some.inj hc
          decide
  | cons letter letters =>
      cases letter with
      | bare d =>
          obtain rfl : d = c := Option.some.inj hc
          simpa [Segment.startsPlain] using hstarts
      | marked d =>
          obtain rfl : '\\' = c := Option.some.inj hc
          decide

/-- A proper segment is read as what it denotes, up to the separator or the end. -/
theorem segment_text {part : Segment} {atEnd : Bool} {rest : List Char}
    (hproper : part.isProper atEnd = true) (hrest : StartsApart rest)
    (hend : atEnd = true → rest = []) :
    segment (part.text ++ rest) = .ok (part.value, rest) := by
  cases part with
  | quoted quote letters =>
      rw [Segment.isProper, Bool.and_eq_true] at hproper
      have hread := quotedSegment_letters hproper.1 hproper.2 rest
      rw [Segment.text, List.cons_append, List.append_assoc, List.singleton_append]
      exact (segment_quote_iff hproper.1).mpr ⟨hread, hrest⟩
  | plain letters stray =>
      simp only [Segment.isProper, Bool.and_eq_true, Bool.or_eq_true,
        Bool.not_eq_true'] at hproper
      obtain ⟨⟨hstarts, hletters⟩, hstray⟩ := hproper
      have hlone : stray = true → rest = [] := by
        intro htrue
        apply hend
        simpa [htrue] using hstray
      rw [Segment.text, List.append_assoc, segment_of_head (head_plain hstarts hrest),
        plainSegment_letters hletters, plainSegment_strayText hrest hlone]
      rfl

/-- What is read as one segment is the text of a proper segment. -/
theorem exists_segment {cs chars after : List Char}
    (hread : segment cs = .ok (chars, after)) :
    ∃ part : Segment, part.isProper after.isEmpty = true ∧ part.value = chars ∧
      cs = part.text ++ after ∧ StartsApart after := by
  by_cases hquoted : ∃ quote rest, cs = quote :: rest ∧ isQuote quote = true
  · obtain ⟨quote, rest, rfl, hquote⟩ := hquoted
    have hinner := (segment_quote_iff hquote).mp hread
    obtain ⟨letters, hfit, rfl, rfl⟩ := exists_letters_of_quotedSegment hinner.1
    refine ⟨.quoted quote letters, ?_, rfl, ?_, hinner.2⟩
    · rw [Segment.isProper, hquote, hfit]
      rfl
    · simp [Segment.text]
  · have hhead : ∀ c ∈ cs.head?, isQuote c = false := by
      intro c hc
      obtain ⟨rest, rfl⟩ := List.head?_eq_some_iff.mp hc
      exact Bool.eq_false_iff.mpr fun hquote => hquoted ⟨c, rest, rfl, hquote⟩
    obtain ⟨letters, stray, hletters, hvalue, htext, hapart, hstray⟩ :=
      exists_letters_of_plainSegment cs
    rw [segment_of_head hhead, Except.ok.injEq] at hread
    rw [hread] at hvalue htext hapart hstray
    refine ⟨.plain letters stray, ?_, hvalue.symm, ?_, hapart⟩
    · have hstarts : Segment.startsPlain letters = true := by
        rw [htext] at hhead
        cases letters with
        | nil => rfl
        | cons letter letters =>
            cases letter with
            | bare c => simpa [Segment.startsPlain] using hhead c rfl
            | marked c => rfl
      have hlone : (after.isEmpty || !stray) = true := by
        cases stray with
        | false => simp
        | true => simpa using hstray rfl
      rw [Segment.isProper, hstarts, hletters, hlone]
      rfl
    · rw [Segment.text, List.append_assoc]
      exact htext

/-! ## Sequences of segments -/

/-- Proper segments are read as what they denote.  Where nothing is written, nothing
is read, and this is right only if all components before are empty. -/
theorem readSegments_text (allEmpty : Bool) {writing : Writing}
    (hproper : writing.isProper = true)
    (hwritten : writing.text = [] → allEmpty = true) :
    readSegments allEmpty writing.text =
      .ok (writing.earlier.map Segment.value ++
        if allEmpty && writing.closes then [] else [writing.last.value]) := by
  -- On the segments before the last one; the flag says whether those already read
  -- were all empty, so it stands in front of `closes` for the rest.
  obtain ⟨earlier, last⟩ := writing
  rw [Writing.isProper, Bool.and_eq_true] at hproper
  obtain ⟨hearlier, hlast⟩ := hproper
  induction earlier generalizing allEmpty with
  | nil =>
      change readSegments allEmpty last.text = _
      by_cases hempty : last.text = []
      · have hall : allEmpty = true := hwritten hempty
        simp [hempty, hall, Writing.closes, readSegments]
      · have hread := segment_text hlast startsApart_nil fun _ => rfl
        rw [List.append_nil] at hread
        rw [readSegments_last allEmpty hempty hread]
        simp [Writing.closes, hempty]
  | cons part earlier ih =>
      rw [List.all_cons, Bool.and_eq_true] at hearlier
      have hcloses : (allEmpty && (⟨part :: earlier, last⟩ : Writing).closes) =
          ((allEmpty && part.value.isEmpty) && (⟨earlier, last⟩ : Writing).closes) := by
        simp only [Writing.closes, List.all_cons]
        ac_rfl
      have hread : segment (part.text ++ '/' :: (⟨earlier, last⟩ : Writing).text) =
          .ok (part.value, '/' :: (⟨earlier, last⟩ : Writing).text) :=
        segment_text hearlier.1 (startsApart_separator _)
          (fun hfalse => absurd hfalse Bool.false_ne_true)
      rw [Writing.text_cons, hcloses]
      -- Behind a separator at the very end there is no segment for the reader.
      by_cases hrest : (⟨earlier, last⟩ : Writing).text = []
      · obtain ⟨rfl, rfl⟩ := Writing.text_eq_nil_iff.mp hrest
        rw [hrest] at hread ⊢
        rw [readSegments_closed allEmpty (by simp) hread]
        cases allEmpty && part.value.isEmpty <;> rfl
      · rw [readSegments_more allEmpty (by simp) hrest hread,
          ih _ (fun hnil => absurd hnil hrest) hearlier.2 hlast]
        rfl

/-- What can be read is the text of proper segments. -/
theorem exists_writing {allEmpty : Bool} {cs : List Char} {components : List (List Char)}
    (hread : readSegments allEmpty cs = .ok components) :
    ∃ writing : Writing, writing.isProper = true ∧ writing.text = cs := by
  induction allEmpty, cs using readSegments.induct generalizing components with
  | case1 => exact ⟨⟨[], .plain [] false⟩, rfl, rfl⟩
  | case2 allEmpty c rest fault hsegment =>
      rw [readSegments] at hread
      split at hread <;> simp_all
  | case3 allEmpty c rest chars hsegment =>
      obtain ⟨part, hpart, -, htext, -⟩ := exists_segment hsegment
      refine ⟨⟨[], part⟩, by simpa [Writing.isProper] using hpart, ?_⟩
      rw [htext, List.append_nil]
      rfl
  | case4 allEmpty c rest chars d hsegment =>
      obtain ⟨part, hpart, -, htext, hapart⟩ := exists_segment hsegment
      obtain rfl : d = '/' := hapart d rfl
      refine ⟨⟨[part], .plain [] false⟩, ?_, ?_⟩
      · simpa [Writing.isProper, Segment.isProper, Segment.startsPlain] using hpart
      · rw [htext]
        simp [Writing.text, Segment.text, Segment.strayText]
  | case5 allEmpty c rest chars d e after hsegment ih =>
      obtain ⟨part, hpart, -, htext, hapart⟩ := exists_segment hsegment
      obtain rfl : d = '/' := hapart d rfl
      rw [readSegments_more allEmpty (by simp) (by simp) hsegment] at hread
      cases hothers : readSegments (allEmpty && chars.isEmpty) (e :: after) with
      | error fault =>
          rw [hothers] at hread
          cases hread
      | ok others =>
          obtain ⟨⟨earlier, last⟩, hwriting, hafter⟩ := ih hothers
          refine ⟨⟨part :: earlier, last⟩, ?_, ?_⟩
          · have hfirst : part.isProper false = true := hpart
            rw [Writing.isProper, List.all_cons, hfirst, Bool.true_and]
            exact hwriting
          · rw [Writing.text_cons, hafter, ← htext]

/-! ## One reading at most -/

theorem text_append_ne_strayText {letter : Letter} (hletter : letter.fitsPlain = true)
    (cs : List Char) (stray : Bool) : letter.text ++ cs ≠ Segment.strayText stray := by
  intro htext
  cases stray with
  | false => cases letter <;> exact nomatch htext
  | true =>
      cases letter with
      | bare c =>
          obtain ⟨rfl, -⟩ := List.cons.inj htext
          exact absurd hletter (by decide)
      | marked c => exact nomatch htext

theorem plainLetter_unique {letter other : Letter} {cs ds : List Char}
    (hletter : letter.fitsPlain = true) (hother : other.fitsPlain = true)
    (htext : letter.text ++ cs = other.text ++ ds) : letter = other ∧ cs = ds := by
  cases letter with
  | bare c =>
      cases other with
      | bare d =>
          obtain ⟨rfl, rfl⟩ := List.cons.inj htext
          exact ⟨rfl, rfl⟩
      | marked d =>
          obtain ⟨rfl, -⟩ := List.cons.inj htext
          exact absurd hletter (by decide)
  | marked c =>
      cases other with
      | bare d =>
          obtain ⟨rfl, -⟩ := List.cons.inj htext
          exact absurd hother (by decide)
      | marked d =>
          obtain ⟨-, hrest⟩ := List.cons.inj htext
          obtain ⟨rfl, rfl⟩ := List.cons.inj hrest
          exact ⟨rfl, rfl⟩

theorem plainLetters_unique {letters others : List Letter} {stray other : Bool}
    (hletters : letters.all Letter.fitsPlain = true)
    (hothers : others.all Letter.fitsPlain = true)
    (htext : letters.flatMap Letter.text ++ Segment.strayText stray =
      others.flatMap Letter.text ++ Segment.strayText other) :
    letters = others ∧ stray = other := by
  induction letters generalizing others with
  | nil =>
      cases others with
      | nil => cases stray <;> cases other <;> first | exact ⟨rfl, rfl⟩ | exact nomatch htext
      | cons letter others =>
          rw [List.all_cons, Bool.and_eq_true] at hothers
          rw [List.flatMap_cons, List.append_assoc] at htext
          exact absurd htext.symm (text_append_ne_strayText hothers.1 _ stray)
  | cons letter letters ih =>
      rw [List.all_cons, Bool.and_eq_true] at hletters
      rw [List.flatMap_cons, List.append_assoc] at htext
      cases others with
      | nil => exact absurd htext (text_append_ne_strayText hletters.1 _ other)
      | cons next others =>
          rw [List.all_cons, Bool.and_eq_true] at hothers
          rw [List.flatMap_cons, List.append_assoc] at htext
          obtain ⟨rfl, hrest⟩ := plainLetter_unique hletters.1 hothers.1 htext
          obtain ⟨rfl, rfl⟩ := ih hletters.2 hothers.2 hrest
          exact ⟨rfl, rfl⟩

theorem fitQuotes_bare_iff {quote c : Char} {letters : List Letter} :
    Letter.fitQuotes quote (.bare c :: letters) = true ↔
      c ≠ quote ∧
        Letter.startsMark quote (c :: (letters.flatMap Letter.text ++ [quote])) = false ∧
        Letter.fitQuotes quote letters = true := by
  simp [Letter.fitQuotes, and_assoc]

theorem fitQuotes_marked_iff {quote c : Char} {letters : List Letter} :
    Letter.fitQuotes quote (.marked c :: letters) = true ↔
      (c = quote ∨ c = '\\') ∧ Letter.fitQuotes quote letters = true := by
  simp [Letter.fitQuotes]

theorem text_append_ne_quote {quote : Char} {letter : Letter} {letters : List Letter}
    (hquote : isQuote quote = true)
    (hletters : Letter.fitQuotes quote (letter :: letters) = true) (cs ds : List Char) :
    letter.text ++ cs ≠ quote :: ds := by
  intro htext
  cases letter with
  | bare c => exact (fitQuotes_bare_iff.mp hletters).1 (List.cons.inj htext).1
  | marked c => exact ne_mark_of_isQuote hquote (List.cons.inj htext).1.symm

/-- A letter by itself does not start what reads as a mark. -/
theorem bare_text_ne_marked {quote c d : Char} {letters : List Letter}
    (hletters : Letter.fitQuotes quote (.bare c :: letters) = true)
    (hd : d = quote ∨ d = '\\') (cs : List Char) :
    c :: (letters.flatMap Letter.text ++ [quote]) ≠ '\\' :: d :: cs := by
  intro htext
  have hmark := (fitQuotes_bare_iff.mp hletters).2.1
  rw [htext, Bool.eq_false_iff] at hmark
  exact hmark (startsMark_cons_iff.mpr ⟨rfl, hd⟩)

theorem quotedLetters_unique {quote : Char} {letters others : List Letter}
    (hquote : isQuote quote = true)
    (hletters : Letter.fitQuotes quote letters = true)
    (hothers : Letter.fitQuotes quote others = true)
    (htext : letters.flatMap Letter.text ++ [quote] = others.flatMap Letter.text ++ [quote]) :
    letters = others := by
  induction letters generalizing others with
  | nil =>
      cases others with
      | nil => rfl
      | cons other others =>
          rw [List.flatMap_cons, List.append_assoc] at htext
          exact absurd htext.symm (text_append_ne_quote hquote hothers _ [])
  | cons letter letters ih =>
      cases others with
      | nil =>
          rw [List.flatMap_cons, List.append_assoc] at htext
          exact absurd htext (text_append_ne_quote hquote hletters _ [])
      | cons other others =>
          cases letter with
          | bare c =>
              have hfit := fitQuotes_bare_iff.mp hletters
              cases other with
              | bare d =>
                  obtain ⟨rfl, hrest⟩ := List.cons.inj htext
                  rw [ih hfit.2.2 (fitQuotes_bare_iff.mp hothers).2.2 hrest]
              | marked d =>
                  have hd := (fitQuotes_marked_iff.mp hothers).1
                  exact absurd htext (bare_text_ne_marked hletters hd _)
          | marked c =>
              have hfit := fitQuotes_marked_iff.mp hletters
              cases other with
              | bare d => exact absurd htext.symm (bare_text_ne_marked hothers hfit.1 _)
              | marked d =>
                  obtain ⟨-, htail⟩ := List.cons.inj htext
                  obtain ⟨rfl, hrest⟩ := List.cons.inj htail
                  rw [ih hfit.2 (fitQuotes_marked_iff.mp hothers).2 hrest]

/-- The first character tells the two kinds of segments apart. -/
theorem quoted_text_ne_plain {quote : Char} {letters others : List Letter} {stray : Bool}
    (hquote : isQuote quote = true) (hothers : Segment.startsPlain others = true) :
    (Segment.quoted quote letters).text ≠ (Segment.plain others stray).text := by
  intro htext
  have hhead : ∀ c ∈ (others.flatMap Letter.text ++ (Segment.strayText stray ++ [])).head?,
      isQuote c = false :=
    head_plain hothers startsApart_nil
  rw [List.append_nil] at hhead
  have hfalse : isQuote quote = false := by
    apply hhead
    rw [Segment.text, Segment.text] at htext
    rw [← htext]
    rfl
  exact Bool.noConfusion (hquote.symm.trans hfalse)

theorem eq_of_text_eq {part other : Segment} {atEnd otherAtEnd : Bool}
    (hpart : part.isProper atEnd = true) (hother : other.isProper otherAtEnd = true)
    (htext : part.text = other.text) : part = other := by
  cases part with
  | quoted quote letters =>
      rw [Segment.isProper, Bool.and_eq_true] at hpart
      cases other with
      | quoted otherQuote others =>
          rw [Segment.isProper, Bool.and_eq_true] at hother
          obtain ⟨rfl, hletters⟩ := List.cons.inj htext
          rw [quotedLetters_unique hpart.1 hpart.2 hother.2 hletters]
      | plain others stray =>
          simp only [Segment.isProper, Bool.and_eq_true] at hother
          exact absurd htext (quoted_text_ne_plain hpart.1 hother.1.1)
  | plain letters stray =>
      simp only [Segment.isProper, Bool.and_eq_true] at hpart
      cases other with
      | quoted quote others =>
          rw [Segment.isProper, Bool.and_eq_true] at hother
          exact absurd htext.symm (quoted_text_ne_plain hother.1 hpart.1.1)
      | plain others otherStray =>
          simp only [Segment.isProper, Bool.and_eq_true] at hother
          obtain ⟨rfl, rfl⟩ := plainLetters_unique hpart.1.2 hother.1.2 htext
          rfl

/-- The reader finds the end of a segment, so two segments with a text that is the same
together with what follows are the same. -/
theorem segment_unique {part other : Segment} {atEnd otherAtEnd : Bool}
    {rest otherRest : List Char}
    (hpart : part.isProper atEnd = true) (hother : other.isProper otherAtEnd = true)
    (hrest : StartsApart rest) (hotherRest : StartsApart otherRest)
    (hend : atEnd = true → rest = []) (hotherEnd : otherAtEnd = true → otherRest = [])
    (htext : part.text ++ rest = other.text ++ otherRest) :
    part = other ∧ rest = otherRest := by
  -- Both are what the reader finds at the start of the same text.
  have hread := segment_text hpart hrest hend
  rw [htext, segment_text hother hotherRest hotherEnd] at hread
  obtain ⟨-, rfl⟩ := Prod.mk.inj (Except.ok.inj hread)
  exact ⟨eq_of_text_eq hpart hother (List.append_cancel_right htext), rfl⟩

theorem writing_unique {writing other : Writing} (hwriting : writing.isProper = true)
    (hother : other.isProper = true) (htext : writing.text = other.text) :
    writing = other := by
  obtain ⟨earlier, last⟩ := writing
  obtain ⟨otherEarlier, otherLast⟩ := other
  rw [Writing.isProper, Bool.and_eq_true] at hwriting hother
  obtain ⟨hearlier, hlast⟩ := hwriting
  obtain ⟨hotherEarlier, hotherLast⟩ := hother
  induction earlier generalizing otherEarlier with
  | nil =>
      cases otherEarlier with
      | nil =>
          obtain rfl := eq_of_text_eq hlast hotherLast htext
          rfl
      | cons other otherEarlier =>
          rw [List.all_cons, Bool.and_eq_true] at hotherEarlier
          have hmore : last.text ++ [] =
              other.text ++ '/' :: (⟨otherEarlier, otherLast⟩ : Writing).text := by
            rw [List.append_nil, ← Writing.text_cons]
            exact htext
          have hrest := (segment_unique hlast hotherEarlier.1 startsApart_nil
            (startsApart_separator _) (fun _ => rfl) nofun hmore).2
          exact nomatch hrest
  | cons part earlier ih =>
      rw [List.all_cons, Bool.and_eq_true] at hearlier
      rw [Writing.text_cons] at htext
      cases otherEarlier with
      | nil =>
          have hmore : part.text ++ '/' :: (⟨earlier, last⟩ : Writing).text =
              otherLast.text ++ [] := by
            rw [List.append_nil]
            exact htext
          have hrest := (segment_unique hearlier.1 hotherLast (startsApart_separator _)
            startsApart_nil nofun (fun _ => rfl) hmore).2
          exact nomatch hrest
      | cons other otherEarlier =>
          rw [List.all_cons, Bool.and_eq_true] at hotherEarlier
          rw [Writing.text_cons] at htext
          obtain ⟨rfl, hrest⟩ := segment_unique hearlier.1 hotherEarlier.1
            (startsApart_separator _) (startsApart_separator _) nofun nofun htext
          obtain ⟨rfl, rfl⟩ := Writing.mk.inj
            (ih otherEarlier (List.cons.inj hrest).2 hearlier.2 hlast hotherEarlier.2
              hotherLast)
          rfl

/-! ## Texts -/

theorem parse_of_writes {writing : Writing} {text : String}
    (hwrites : writing.Writes text) : parse text = .ok writing.name := by
  obtain ⟨hproper, htext⟩ := hwrites
  rw [parse, ← htext, readSegments_text true hproper fun _ => rfl]
  rfl

theorem exists_writes_of_parse_eq_ok {text : String} {name : CompositeName}
    (hparse : parse text = .ok name) : ∃ writing : Writing, writing.Writes text := by
  rw [parse] at hparse
  split at hparse
  · exact exists_writing ‹_›
  · cases hparse

theorem exists_of_parse_eq_error {text : String} {fault : Fault}
    (hparse : parse text = .error fault) :
    ∃ cause : NameFault, fault = .malformedName text cause.reason := by
  rw [parse] at hparse
  split at hparse
  · cases hparse
  · exact ⟨_, (Except.error.inj hparse).symm⟩

theorem parse_eq_ok_iff {text : String} {name : CompositeName} :
    parse text = .ok name ↔ ∃ writing : Writing, writing.Writes text ∧ writing.name = name := by
  constructor
  · intro hparse
    obtain ⟨writing, hwrites⟩ := exists_writes_of_parse_eq_ok hparse
    have hname : Except.ok (ε := Fault) writing.name = .ok name := by
      rw [← parse_of_writes hwrites, hparse]
    exact ⟨writing, hwrites, Except.ok.inj hname⟩
  · rintro ⟨writing, hwrites, rfl⟩
    exact parse_of_writes hwrites

theorem parse_eq_error_iff {text : String} :
    (∃ cause : NameFault, parse text = .error (.malformedName text cause.reason)) ↔
      ∀ writing : Writing, ¬ writing.Writes text := by
  constructor
  · rintro ⟨cause, hparse⟩ writing hwrites
    rw [parse_of_writes hwrites] at hparse
    cases hparse
  · intro hnone
    cases hparse : parse text with
    | ok name =>
        obtain ⟨writing, hwrites⟩ := exists_writes_of_parse_eq_ok hparse
        exact absurd hwrites (hnone writing)
    | error fault =>
        obtain ⟨cause, rfl⟩ := exists_of_parse_eq_error hparse
        exact ⟨cause, rfl⟩

/-- A text is read exactly if it is the text of a written name, and as the name that
this one denotes; there is one at most.  Any other text is refused. -/
theorem parse_denotes (text : String) :
    (∀ name, parse text = .ok name ↔
      ∃ writing : Writing, writing.Writes text ∧ writing.name = name) ∧
      {writing : Writing | writing.Writes text}.Subsingleton ∧
      ((∃ cause : NameFault, parse text = .error (.malformedName text cause.reason)) ↔
        ∀ writing : Writing, ¬ writing.Writes text) := by
  have hunique : {writing : Writing | writing.Writes text}.Subsingleton := by
    intro writing hwrites other hother
    have htext : writing.text = other.text := by
      rw [hwrites.2, hother.2]
    exact writing_unique hwrites.1 hother.1 htext
  exact ⟨fun _ => parse_eq_ok_iff, hunique, parse_eq_error_iff⟩

/-- `"a\"/"/\/\`: a quote and a separator in quotes, and a lone backslash at the end. -/
example :
    (⟨[.quoted '"' [.bare 'a', .marked '"', .bare '/']], .plain [.marked '/'] true⟩ :
      Writing).Writes "\"a\\\"/\"/\\/\\" :=
  ⟨by decide, by decide⟩

end CompositeName

/-- A name that cannot be read. -/
def GivenName.IsUnreadable (name : GivenName) : Prop :=
  ∃ fault, name.resolve = .error fault

/-- A name that was given is refused only as a text that writes none. -/
theorem GivenName.exists_of_resolve_eq_error {name : GivenName} {fault : Fault}
    (hgiven : name ≠ .missing) (hresolve : name.resolve = .error fault) :
    ∃ text, ∃ cause : NameFault, name = .text text ∧
      fault = .malformedName text cause.reason := by
  cases name with
  | missing => exact absurd rfl hgiven
  | text text =>
      obtain ⟨cause, hcause⟩ := CompositeName.exists_of_parse_eq_error hresolve
      exact ⟨text, cause, rfl, hcause⟩
  | composite name => cases hresolve

end NameRouting
