import PlainPage.Proofs.Typesetter.Brackets

/-!
# Reading a stream

A stream is read line by line, each line when its turn comes.  What comes of that can be told
from the stream as a whole: either all of its pieces are lines that the document accepts, or
there is a first piece that is no text or is refused.  Nothing after that piece matters, and
the output is only written when the page is there.

Main results:

- Definition `Typesetter.StopsAt` is the first fault of a stream, with its number.
- Theorem `Typesetter.readOn_eq` says that reading line by line is feeding the pieces.
- Theorem `Typesetter.feedPieces_eq_error_iff` says which piece ends a stream.
- Theorem `Typesetter.typesetOnto_answers` says what comes of a stream and what is written.
-/

namespace PlainPage

/-- Whether two streams have the same bytes up to the end of the line with the given number,
its line feed included. -/
def AgreeThrough (number : Nat) (input other : Bytes) : Prop :=
  ∃ shared rest otherRest, input = shared ++ lineFeed :: rest ∧
    other = shared ++ lineFeed :: otherRest ∧ (pieces (shared ++ [lineFeed])).length = number

namespace Typesetter

variable {t u : Typesetter}

/-! ## Line by line -/

/-- Reading a stream line by line is feeding its pieces. -/
theorem readOn_eq (t : Typesetter) (count : Nat) (unread : Bytes) :
    t.readOn count unread = t.feedPieces (count + 1) (pieces unread) := by
  fun_induction readOn t count unread with
  | case1 => rfl
  | case2 t count unread hunread next hpiece ih =>
    rw [pieces_eq_cons hunread, feedPieces, hpiece]
    exact ih
  | case3 t count unread hunread failure hpiece =>
    rw [pieces_eq_cons hunread, feedPieces, hpiece]
    rfl

/-! ## The first fault -/

/-- A document that has accepted pieces of a stream, one after the other. -/
def Accepts (t : Typesetter) (stream : List Bytes) (u : Typesetter) : Prop :=
  ∃ lines, stream.mapM readLine? = some lines ∧ t.feedAll lines = (.ok (), u)

/-- Why a document does not accept the piece of a stream with the given number: it is no
text, or the document refuses its line. -/
inductive Fault (t : Typesetter) (number : Nat) (piece : Bytes) : Failure → Prop where
  | unreadable (htext : Text.ofUtf8? piece = none) :
      Fault t number piece
        { contexts := ["failed to read line ".toList ++ decimal number], cause := .notText }
  | refused {line : Text} {error : DocumentError} {u : Typesetter}
      (hread : readLine? piece = some line) (hfeed : t.feed line = (.error error, u)) :
      Fault t number piece
        { contexts := ["line ".toList ++ decimal number], cause := .document error }

/-- The piece of a stream with the given number is the first one that is not accepted. -/
def StopsAt (t : Typesetter) (input : Bytes) (number : Nat) (failure : Failure) : Prop :=
  ∃ before piece after u, pieces input = before ++ piece :: after ∧
    number = before.length + 1 ∧ t.Accepts before u ∧ u.Fault number piece failure

theorem accepts_nil_iff : t.Accepts [] u ↔ u = t := by
  constructor
  · rintro ⟨lines, hlines, hfeed⟩
    cases hlines
    cases hfeed
    rfl
  · rintro rfl
    exact ⟨[], rfl, rfl⟩

/-- Pieces are accepted one after the other. -/
theorem accepts_cons_iff {piece : Bytes} {rest : List Bytes} :
    t.Accepts (piece :: rest) u ↔
      ∃ line next, readLine? piece = some line ∧ t.feed line = (.ok (), next) ∧
        next.Accepts rest u := by
  constructor
  · rintro ⟨lines, hlines, hfeed⟩
    rcases mapM_readLine?_cons_iff.1 hlines with ⟨line, more, hline, hmore, rfl⟩
    rcases feedAll_cons_eq_ok_iff.1 hfeed with ⟨next, hfirst, hrest⟩
    exact ⟨line, next, hline, hfirst, more, hmore, hrest⟩
  · rintro ⟨line, next, hline, hfirst, more, hmore, hrest⟩
    exact ⟨line :: more, mapM_readLine?_cons_iff.2 ⟨line, more, hline, hmore, rfl⟩,
      feedAll_cons_eq_ok_iff.2 ⟨next, hfirst, hrest⟩⟩

/-- A stream is read to its end when all of its pieces are accepted. -/
theorem feedPieces_eq_ok_iff {number : Nat} {stream : List Bytes} :
    t.feedPieces number stream = .ok u ↔ t.Accepts stream u := by
  induction stream generalizing t number with
  | nil =>
    rw [accepts_nil_iff, feedPieces, Except.ok.injEq, eq_comm]
  | cons piece rest ih =>
    rw [feedPieces, bind_eq_ok_iff, accepts_cons_iff]
    constructor
    · rintro ⟨next, hpiece, hrest⟩
      rcases feedPiece_eq_ok_iff.1 hpiece with ⟨line, hline, hfeed⟩
      exact ⟨line, next, hline, hfeed, ih.1 hrest⟩
    · rintro ⟨line, next, hline, hfeed, hrest⟩
      exact ⟨next, feedPiece_eq_ok_iff.2 ⟨line, hline, hfeed⟩, ih.2 hrest⟩

/-- When a piece of a stream is not accepted, and the failure. -/
theorem feedPiece_eq_error_iff {number : Nat} {piece : Bytes} {failure : Failure} :
    t.feedPiece number piece = .error failure ↔ t.Fault number piece failure := by
  cases hread : readLine? piece with
  | none =>
    have htext : Text.ofUtf8? piece = none := Option.map_eq_none_iff.1 hread
    have hpiece : t.feedPiece number piece =
        .error { contexts := [lineContext "failed to read line " number], cause := .notText } := by
      simp [feedPiece, htext]
    rw [hpiece, Except.error.injEq]
    constructor
    · rintro rfl
      exact .unreadable htext
    · rintro (_ | hline)
      · rfl
      · cases hread.symm.trans hline
  | some line =>
    rw [feedPiece_of_readLine? hread]
    rcases hfeed : t.feed line with ⟨answer, next⟩
    constructor
    · intro h
      cases answer with
      | ok _ => cases h
      | error error =>
        cases h
        exact .refused hread hfeed
    · rintro (htext | @⟨other, error, last, hother, hrefused⟩)
      · cases hread.symm.trans (Option.map_eq_none_iff.2 htext)
      · cases hread.symm.trans hother
        rw [hfeed] at hrefused
        cases hrefused
        rfl

/-- The first piece of a stream that is not accepted ends the reading, with the number that it
has in the stream. -/
theorem feedPieces_eq_error_iff {number : Nat} {stream : List Bytes} {failure : Failure} :
    t.feedPieces number stream = .error failure ↔
      ∃ before piece after u, stream = before ++ piece :: after ∧ t.Accepts before u ∧
        u.Fault (before.length + number) piece failure := by
  induction stream generalizing t number with
  | nil => simp [feedPieces]
  | cons piece rest ih =>
    rw [feedPieces, bind_eq_error_iff]
    constructor
    · rintro (hpiece | ⟨next, hpiece, hrest⟩)
      · refine ⟨[], piece, rest, t, rfl, accepts_nil_iff.2 rfl, ?_⟩
        rw [List.length_nil, Nat.zero_add]
        exact feedPiece_eq_error_iff.1 hpiece
      · rcases feedPiece_eq_ok_iff.1 hpiece with ⟨line, hline, hfeed⟩
        rcases ih.1 hrest with ⟨before, bad, after, u, rfl, hbefore, hfault⟩
        refine ⟨piece :: before, bad, after, u, rfl,
          accepts_cons_iff.2 ⟨line, next, hline, hfeed, hbefore⟩, ?_⟩
        rw [List.length_cons, Nat.add_assoc, Nat.add_comm 1]
        exact hfault
    · rintro ⟨before, bad, after, u, hstream, hbefore, hfault⟩
      cases before with
      | nil =>
        cases hstream
        rw [accepts_nil_iff] at hbefore
        subst hbefore
        rw [List.length_nil, Nat.zero_add] at hfault
        exact .inl (feedPiece_eq_error_iff.2 hfault)
      | cons first more =>
        cases hstream
        rcases accepts_cons_iff.1 hbefore with ⟨line, next, hline, hfeed, hmore⟩
        refine .inr ⟨next, feedPiece_eq_ok_iff.2 ⟨line, hline, hfeed⟩,
          ih.2 ⟨more, bad, after, u, rfl, hmore, ?_⟩⟩
        rw [List.length_cons, Nat.add_assoc, Nat.add_comm 1] at hfault
        exact hfault

/-- Reading a stream onto an output comes to setting the whole document and writing the page
if there is one. -/
theorem typesetOnto_eq (t : Typesetter) (input : Bytes) (output : Text) :
    t.typesetOnto input output =
      match t.typeset input with
      | .ok page => (.ok (), output ++ page)
      | .error failure => (.error failure, output) := by
  unfold typesetOnto typeset
  rw [readOn_eq]
  cases t.feedPieces (0 + 1) (pieces input) with
  | error failure => rfl
  | ok u =>
    simp only [bind, Except.bind]
    cases u.renderEnd <;> rfl

/-- A stream is not read to its end when it stops at some piece. -/
theorem readOn_eq_error_iff {input : Bytes} {failure : Failure} :
    t.readOn 0 input = .error failure ↔ ∃ number, t.StopsAt input number failure := by
  rw [readOn_eq, feedPieces_eq_error_iff]
  constructor
  · rintro ⟨before, piece, after, u, hpieces, hbefore, hfault⟩
    exact ⟨_, before, piece, after, u, hpieces, rfl, hbefore, hfault⟩
  · rintro ⟨_, before, piece, after, u, hpieces, rfl, hbefore, hfault⟩
    exact ⟨before, piece, after, u, hpieces, hbefore, hfault⟩

/-- A stream that agrees with another one through the line at which that one stops, stops
there as well. -/
theorem StopsAt.of_agreeThrough {input other : Bytes} {number : Nat} {failure : Failure}
    (h : t.StopsAt input number failure) (hagree : AgreeThrough number input other) :
    t.StopsAt other number failure := by
  rcases h with ⟨before, piece, after, u, hpieces, hnumber, hbefore, hfault⟩
  rcases hagree with ⟨shared, rest, otherRest, rfl, rfl, hlength⟩
  rw [pieces_append, List.append_cons before piece after] at hpieces
  -- The pieces up to the fault are as many as those of the shared lines.
  obtain ⟨hshared, -⟩ := List.append_inj hpieces (by simp [hlength, hnumber])
  refine ⟨before, piece, pieces otherRest, u, ?_, hnumber, hbefore, hfault⟩
  rw [pieces_append, hshared, List.append_assoc]
  rfl

/-! ## What comes of a stream -/

/-- A document is read to its end exactly when all its pieces are accepted. -/
theorem readOn_eq_ok_iff {input : Bytes} :
    t.readOn 0 input = .ok u ↔ t.Accepts (pieces input) u := by
  rw [readOn_eq, feedPieces_eq_ok_iff]

/-- The page is written when the stream is read to its end and the document ends well. -/
theorem typesetOnto_eq_ok_iff {input : Bytes} {output written : Text} :
    t.typesetOnto input output = (.ok (), written) ↔
      ∃ u page, t.readOn 0 input = .ok u ∧ u.render = .ok page ∧ written = output ++ page := by
  unfold typesetOnto renderEnd
  cases t.readOn 0 input with
  | error failure => simp
  | ok u => cases hrender : u.render <;> simp [hrender, eq_comm]

/-- A failure leaves the output as it was. -/
theorem typesetOnto_eq_error_iff {input : Bytes} {output written : Text} {failure : Failure} :
    t.typesetOnto input output = (.error failure, written) ↔
      written = output ∧
        (t.readOn 0 input = .error failure ∨
          ∃ u error, t.readOn 0 input = .ok u ∧ u.render = .error error ∧
            failure = { contexts := ["end of input".toList], cause := .document error }) := by
  unfold typesetOnto renderEnd
  cases t.readOn 0 input with
  | error failure => simp [and_comm, eq_comm]
  | ok u => cases hrender : u.render <;> simp [hrender, and_comm, eq_comm]

/-- A stream gives a page exactly when all of its pieces are accepted and the document ends
well, and the page is then written.  Otherwise nothing is written, and the failure is that of
the first piece which is not accepted, or else that of the end of the document.  What follows
the line of the first fault does not matter. -/
theorem typesetOnto_answers (t : Typesetter) (input : Bytes) (output : Text) :
    (∀ written, t.typesetOnto input output = (.ok (), written) ↔
      ∃ u page, t.Accepts (pieces input) u ∧ u.render = .ok page ∧ written = output ++ page) ∧
    (∀ failure written, t.typesetOnto input output = (.error failure, written) ↔
      written = output ∧
        ((∃ number, t.StopsAt input number failure) ∨
          ∃ u error, t.Accepts (pieces input) u ∧ u.render = .error error ∧
            failure = { contexts := ["end of input".toList], cause := .document error })) ∧
    ∀ number failure other, t.StopsAt input number failure → AgreeThrough number input other →
      t.typesetOnto other output = (.error failure, output) := by
  refine ⟨fun written => ?_, fun failure written => ?_,
    fun number failure other hstops hagree => ?_⟩
  · rw [typesetOnto_eq_ok_iff]
    simp only [readOn_eq_ok_iff]
  · rw [typesetOnto_eq_error_iff, readOn_eq_error_iff]
    simp only [readOn_eq_ok_iff]
  · have hother := readOn_eq_error_iff.2 ⟨number, hstops.of_agreeThrough hagree⟩
    exact typesetOnto_eq_error_iff.2 ⟨rfl, .inl hother⟩

/-- An unknown command on the second line, with bytes after it that are no text. -/
theorem typesetOnto_answers_unread :
    ({} : Typesetter).typesetOnto (Text.utf8 "fine\n@bogus\n".toList ++ [255]) "old\n".toList =
      (.error { contexts := ["line 2".toList], cause := .document (.unknownCommand "bogus".toList) },
        "old\n".toList) := by
  have hstops : StopsAt {} (Text.utf8 "fine\n@bogus\nmore\n".toList) 2
      { contexts := ["line 2".toList], cause := .document (.unknownCommand "bogus".toList) } := by
    refine ⟨[Text.utf8 "fine\n".toList], Text.utf8 "@bogus\n".toList,
      [Text.utf8 "more\n".toList], (({} : Typesetter).feed "fine".toList).2, by decide +kernel, rfl,
      ⟨["fine".toList], by decide +kernel, ?_⟩, ?_⟩
    · exact feedAll_cons_eq_ok_iff.2 ⟨_, eq_ok_of_isOk (by decide +kernel), rfl⟩
    · have hread : readLine? (Text.utf8 "@bogus\n".toList) = some "@bogus".toList := by
        decide +kernel
      exact .refused hread (Prod.ext rfl rfl)
  have hagree : AgreeThrough 2 (Text.utf8 "fine\n@bogus\nmore\n".toList)
      (Text.utf8 "fine\n@bogus\n".toList ++ [255]) :=
    ⟨Text.utf8 "fine\n@bogus".toList, Text.utf8 "more\n".toList, [255], by decide +kernel,
      by decide +kernel, by decide +kernel⟩
  exact (typesetOnto_answers {} _ _).2.2 2 _ _ hstops hagree

end Typesetter

end PlainPage
