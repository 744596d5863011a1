import PlainPage.Proofs.Filter.Standard
import PlainPage.Proofs.Typesetter.Loading
import PlainPage.Proofs.Typesetter.Outline

/-!
# Blocks as brackets

The standard filters never refuse words that they can use, at whatever depth.  So a document
that does nothing but open and close blocks under them is accepted exactly when its
directives match like brackets, and the error of one that is not is that of a matcher which
knows the names of the open blocks and nothing else.

Main results:

- Definition `Nesting.fault?` is the matcher.
- Theorem `Nesting.fault?_eq_none_iff` says that the matcher is content with the lines of
  outlines in which every name matches.
- Theorems `Typesetter.Ready.feed_of_follow` and `Typesetter.Ready.feed_of_fault` say that a
  document does with a line what the matcher does.
- Theorem `Typesetter.typeset_blockLines` says what comes of a whole document.
-/

namespace PlainPage

/-! ## Matching brackets -/

namespace Nesting

/-- The names of the open blocks after a line, innermost first, given those before it. -/
def follow (names : List Text) : Nesting → Except DocumentError (List Text)
  | stays => .ok names
  | opens filter _ => .ok (filter :: names)
  | closes found =>
    match names, found with
    | [], _ => .error .nothingToClose
    | _ :: rest, none => .ok rest
    | name :: rest, some other =>
      if other = name then .ok rest else .error (.mismatchedClose name other)

/-- Follow lines up to the first that is refused; the first one has the given number. -/
def followAll (number : Nat) (names : List Text) : List Nesting → Except Failure (List Text)
  | [] => .ok names
  | line :: rest =>
    match line.follow names with
    | .ok names => followAll (number + 1) names rest
    | .error error =>
      .error { contexts := [Typesetter.lineContext "line " number], cause := .document error }

/-- What is wrong with the brackets of a document, if anything is: the first line that is
refused, or else the outermost block that is left open. -/
def fault? (lines : List Nesting) : Option Failure :=
  match followAll 1 [] lines with
  | .error failure => some failure
  | .ok names => names.getLast?.map fun name =>
      { contexts := ["end of input".toList], cause := .document (.unclosedBlock name) }

/-- When a line that closes a block is accepted. -/
theorem follow_closes_eq_ok_iff {names after : List Text} {found : Option Text} :
    (closes found).follow names = .ok after ↔
      ∃ name, names = name :: after ∧ ∀ other ∈ found, other = name := by
  cases names with
  | nil => simp [follow]
  | cons name rest =>
    cases found with
    | none => simp [follow]
    | some other =>
      by_cases h : other = name
      · simp [follow, h]
      · simp [follow, h, Ne.symm h]

end Nesting

/-- The lines that close the blocks of an outline and name them name them rightly. -/
def Outline.Named : Outline → Prop
  | done => True
  | line _ rest => rest.Named
  | block opening body closing rest =>
    (∀ found ∈ closing.filter, found = opening.filter) ∧ body.Named ∧ rest.Named

/-- Lines that close open blocks with the given names, innermost first, and are outlines in
between. -/
inductive Unwinds : (names lines : List Text) → Prop where
  | last (o : Outline) (h : o.Named) : Unwinds [] o.lines
  | close {name : Text} {names lines : List Text} (o : Outline) (closing : ClosingLine)
      (h : o.Named) (hname : ∀ found ∈ closing.filter, found = name)
      (hrest : Unwinds names lines) : Unwinds (name :: names) (o.lines ++ closing.text :: lines)

namespace Unwinds

variable {names lines : List Text}

/-- A line in front belongs to the first outline. -/
theorem line (l : InnerLine) (h : Unwinds names lines) : Unwinds names (l.text :: lines) := by
  cases h with
  | last o h => exact .last (.line l o) h
  | close o closing h hname hrest => exact .close (.line l o) closing h hname hrest

/-- A block that is opened in front is closed first. -/
theorem block (opening : OpeningLine) (h : Unwinds (opening.filter :: names) lines) :
    Unwinds names (opening.text :: lines) := by
  cases h with
  | close body closing hbody hname hrest =>
    cases hrest with
    | last o h => exact .last (.block opening body closing o) ⟨hname, hbody, h⟩
    | close o other h hother hrest =>
      have hclose :=
        Unwinds.close (.block opening body closing o) other ⟨hname, hbody, h⟩ hother hrest
      simpa only [Outline.lines, List.cons_append, List.append_assoc] using hclose

end Unwinds

namespace Nesting

/-- Lines with an outline leave the open blocks as they are. -/
theorem followAll_outline {o : Outline} (h : o.Named) (number : Nat) (names : List Text)
    (rest : List Nesting) :
    followAll number names (o.lines.map ofLine ++ rest) =
      followAll (number + o.lines.length) names rest := by
  induction o generalizing number names rest with
  | done => rfl
  | line l more ih =>
    rw [Outline.lines, List.map_cons, List.cons_append, followAll, l.reads, follow]
    dsimp only
    rw [ih h, List.length_cons, Nat.add_right_comm, Nat.add_assoc]
  | block opening body closing more ihbody ihmore =>
    have hclose : (closes closing.filter).follow (opening.filter :: names) = .ok names :=
      follow_closes_eq_ok_iff.2 ⟨opening.filter, rfl, h.1⟩
    rw [Outline.lines, List.map_cons, List.cons_append, followAll, opening.reads, follow]
    dsimp only
    rw [List.map_append, List.append_assoc, ihbody h.2.1, List.map_cons, List.cons_append,
      followAll, closing.reads, hclose]
    dsimp only
    rw [ihmore h.2.2]
    congr 1
    simp only [List.length_cons, List.length_append]
    omega

/-- Lines after which no block is open close the blocks that were. -/
theorem unwinds_of_followAll {number : Nat} {names lines : List Text}
    (h : followAll number names (lines.map ofLine) = .ok []) : Unwinds names lines := by
  induction lines generalizing number names with
  | nil =>
    cases h
    exact .last .done trivial
  | cons line rest ih =>
    rw [List.map_cons, followAll] at h
    cases hline : ofLine line with
    | stays =>
      rw [hline] at h
      exact (ih h).line ⟨line, hline⟩
    | opens filter args =>
      rw [hline] at h
      exact (ih h).block ⟨line, filter, args, hline⟩
    | closes found =>
      rw [hline] at h
      cases hfollow : (closes found).follow names with
      | error error => simp [hfollow] at h
      | ok after =>
        rw [hfollow] at h
        rcases follow_closes_eq_ok_iff.1 hfollow with ⟨name, rfl, hname⟩
        exact .close .done ⟨line, found, hline⟩ trivial hname (ih h)

/-- Lines open and close blocks in pairs exactly when they have an outline in which every
name matches. -/
theorem followAll_eq_ok_nil_iff (number : Nat) {lines : List Text} :
    followAll number [] (lines.map ofLine) = .ok [] ↔ ∃ o : Outline, o.lines = lines ∧ o.Named := by
  constructor
  · intro h
    cases unwinds_of_followAll h with
    | last o hnamed => exact ⟨o, rfl, hnamed⟩
  · rintro ⟨o, rfl, hnamed⟩
    have hall := followAll_outline hnamed number [] []
    rw [List.append_nil] at hall
    exact hall

/-- The matcher is content with the lines of an outline in which every name matches, and
with no others. -/
theorem fault?_eq_none_iff {lines : List Text} :
    fault? (lines.map ofLine) = none ↔ ∃ o : Outline, o.lines = lines ∧ o.Named := by
  rw [← followAll_eq_ok_nil_iff 1, fault?]
  cases followAll 1 [] (lines.map ofLine) with
  | error failure => simp
  | ok names => simp [List.getLast?_eq_none_iff]

end Nesting

/-! ## The names of the open blocks -/

namespace Blocks

/-- The names of the open blocks, innermost first, without the page. -/
def names (b : Blocks) : List Text :=
  b.toList.dropLast.map (·.name)

@[simp] theorem names_push (b : Blocks) (block : Block) :
    (b.push block).names = block.name :: b.names := rfl

@[simp] theorem names_feed (b : Blocks) (lines : List Text) : (b.feed lines).names = b.names := by
  rcases b with ⟨innermost, outer⟩
  cases outer <;> rfl

/-- Without a name no block is open. -/
theorem depth_of_names_eq_nil {b : Blocks} (h : b.names = []) : b.depth = 0 := by
  rcases b with ⟨innermost, outer⟩
  cases outer with
  | nil => rfl
  | cons next rest => simp [names, toList] at h

/-- The first name is that of the innermost block. -/
theorem exists_push_of_names {b : Blocks} {name : Text} {names : List Text}
    (h : b.names = name :: names) :
    ∃ (block : Block) (rest : Blocks), b = rest.push block ∧ block.name = name ∧
      rest.names = names := by
  rcases b with ⟨innermost, outer⟩
  cases outer with
  | nil => cases h
  | cons next rest =>
    rcases List.cons.inj h with ⟨hname, hnames⟩
    exact ⟨innermost, ⟨next, rest⟩, rfl, hname, hnames⟩

/-- The page lies beneath blocks with filters. -/
theorem Stacked.exists_toList {b : Blocks} (h : b.Stacked) :
    ∃ blocks page, b.toList = blocks ++ [page] ∧ page.isPage = true ∧
      ∀ block ∈ blocks, block.isPage = false := by
  rcases b with ⟨innermost, outer⟩
  induction outer generalizing innermost with
  | nil => exact ⟨[], innermost, rfl, h, by simp⟩
  | cons next rest ih =>
    rcases ih next h.2 with ⟨blocks, page, hlist, hpage, hblocks⟩
    refine ⟨innermost :: blocks, page, congrArg (innermost :: ·) hlist, hpage, ?_⟩
    intro block hblock
    rcases List.mem_cons.1 hblock with rfl | hmem
    · exact h.1
    · exact hblocks block hmem

/-- The page gives its lines unless a block is open; then the outermost one is named. -/
theorem Stacked.pageLines_eq {b : Blocks} (h : b.Stacked) :
    b.pageLines =
      match b.names.getLast? with
      | some name => .error (.unclosedBlock name)
      | none => .ok b.bottom.lines := by
  rcases h.exists_toList with ⟨blocks, page, hlist, hpage, hblocks⟩
  have hnames : b.names = blocks.map (·.name) := by simp [names, hlist]
  have hfind : b.toList.reverse.find? (!·.isPage) = blocks.getLast? := by
    rw [hlist, List.reverse_append, List.reverse_singleton, List.singleton_append,
      List.find?_cons, hpage, ← List.head?_reverse]
    cases hreverse : blocks.reverse with
    | nil => rfl
    | cons last more =>
      have hmem : last ∈ blocks.reverse := hreverse ▸ List.mem_cons_self
      simp [hblocks last (List.mem_reverse.1 hmem)]
  rw [Blocks.pageLines, hfind, hnames, List.getLast?_map]
  cases blocks.getLast? <;> rfl

/-- Only the page alone gives lines. -/
theorem Stacked.depth_of_pageLines {b : Blocks} {lines : List Text} (h : b.Stacked)
    (hlines : b.pageLines = .ok lines) : b.depth = 0 := by
  rw [h.pageLines_eq] at hlines
  cases hlast : b.names.getLast? with
  | some name => simp [hlast] at hlines
  | none => exact depth_of_names_eq_nil (List.getLast?_eq_none_iff.1 hlast)

/-- What holds of all open blocks whatever their lines are holds after more lines. -/
theorem forall_mem_feed {P : Block → Prop}
    (hlines : ∀ (block : Block) lines, P block → P { block with lines }) {b : Blocks}
    (h : ∀ block ∈ b.toList, P block) (lines : List Text) :
    ∀ block ∈ (b.feed lines).toList, P block := by
  intro block hblock
  rcases List.mem_cons.1 hblock with rfl | hmem
  · exact hlines b.innermost _ (h b.innermost List.mem_cons_self)
  · exact h block (List.mem_cons_of_mem _ hmem)

/-- What holds of all open blocks holds of the innermost one and of those around it. -/
theorem forall_mem_push {P : Block → Prop} {b : Blocks} {block : Block} :
    (∀ other ∈ (b.push block).toList, P other) ↔ P block ∧ ∀ other ∈ b.toList, P other :=
  List.forall_mem_cons

/-- The filters of all open blocks close whatever their lines are. -/
def Served (b : Blocks) : Prop :=
  ∀ block ∈ b.toList, ∀ name filter, block.opened = some (name, filter) →
    filter.Serves block.args

theorem Served.feed {b : Blocks} (h : b.Served) (lines : List Text) : (b.feed lines).Served :=
  forall_mem_feed (fun _ _ hserved => hserved) h lines

/-- A block with a filter that serves may be opened. -/
theorem Served.push {b : Blocks} (h : b.Served) {name : Text} {filter : Filter}
    {args : List Text} (hserves : filter.Serves args) (marks : Marks) :
    (b.push { opened := some (name, filter), args, marks }).Served := by
  refine forall_mem_push.2 ⟨?_, h⟩
  intro other found heq
  cases heq
  exact hserves

/-- The outer blocks are served too. -/
theorem Served.of_push {b : Blocks} {block : Block} (h : (b.push block).Served) : b.Served :=
  (forall_mem_push.1 h).2

end Blocks

/-! ## Lines that open and close blocks -/

/-- A line that is no directive, or closes a block, or opens one under a standard filter with
words that the filter can use. -/
inductive BlockLine (line : Text) : Prop where
  | plain (hline : Directive.ofLine? line = none)
  | opening {name : Text} {args : List Text}
      (hline : Directive.ofLine? line = some (.ok (.openBlock name args)))
      (husable : Filter.Usable name args)
  | closing {found : Option Text}
      (hline : Directive.ofLine? line = some (.ok (.closeBlock found)))

/-- Such a line runs no command, so it leaves the settings in place. -/
theorem BlockLine.replaces_eq_false {line : Text} (h : BlockLine line) (t : Typesetter) :
    t.replaces (.feed line) = false := by
  have hscript : t.script? (.feed line) = none := by
    refine Typesetter.script?_eq_none fun name args hrun => ?_
    cases h with
    | plain hline => cases hline.symm.trans hrun
    | opening hline => cases hline.symm.trans hrun
    | closing hline => cases hline.symm.trans hrun
  rw [Typesetter.replaces, hscript]
  rfl

namespace Typesetter

/-- A document in which every standard filter can be opened, and every open block closed. -/
structure Ready (t : Typesetter) : Prop where
  sound : t.Sound
  restorable : t.Restorable
  confined : t.settings.Confined
  filters : t.repertoire.filters.Extends Filter.standard
  served : t.blocks.Served

/-- A line that leaves the filters alone keeps a document ready, if its open blocks can still
be closed. -/
theorem Ready.feed {t u : Typesetter} {line : Text} (h : t.Ready) (hline : BlockLine line)
    (hfeed : t.feed line = (.ok (), u))
    (hrepertoire : u.repertoire = t.repertoire) (hserved : u.blocks.Served) : u.Ready where
  sound := by
    have hsound := h.sound.take (.feed line)
    rw [take, hfeed] at hsound
    exact hsound
  restorable := by
    have hrestorable := h.restorable.take (hline.replaces_eq_false t)
    rw [take, hfeed] at hrestorable
    exact hrestorable
  confined := by
    have hleads := leads_of_take (hline.replaces_eq_false t)
    rw [take, hfeed] at hleads
    exact hleads.confined h.confined
  filters := by
    rw [hrepertoire]
    exact h.filters
  served := hserved

/-- A block is opened under a standard filter that can use its words. -/
theorem Ready.openBlock {t : Typesetter} (h : t.Ready) {name : Text} {args : List Text}
    (husable : Filter.Usable name args) :
    ∃ u, t.openBlock name args = (.ok (), u) ∧ u.repertoire = t.repertoire ∧
      u.blocks.Served ∧ u.blocks.names = name :: t.blocks.names := by
  rcases Filter.exists_of_usable husable with ⟨filter, hfilter, hserves⟩
  rcases hserves.opens t.settings h.confined with ⟨⟨settings, marks⟩, hrun⟩
  have hget := h.filters name filter hfilter
  exact ⟨_, openBlock_eq_ok_iff.2 ⟨filter, settings, marks, hget, hrun, rfl⟩, rfl,
    h.served.push hserves marks, Blocks.names_push ..⟩

/-- The innermost block is closed if it has the right name. -/
theorem Ready.closeBlock {t : Typesetter} (h : t.Ready) {found : Option Text}
    {names : List Text} (hfollow : (Nesting.closes found).follow t.blocks.names = .ok names) :
    ∃ u, t.closeBlock found = (.ok (), u) ∧ u.repertoire = t.repertoire ∧
      u.blocks.Served ∧ u.blocks.names = names := by
  rcases Nesting.follow_closes_eq_ok_iff.1 hfollow with ⟨name, hnames, hname⟩
  rcases Blocks.exists_push_of_names hnames with ⟨block, rest, hpush, rfl, rfl⟩
  have hstacked := h.sound.stacked
  have hserved := h.served
  have hfit := h.sound.fit h.restorable
  rw [hpush] at hstacked hserved hfit
  rcases (hfit block.marks List.mem_cons_self).restore with ⟨settings, hrestore⟩
  cases hopened : block.opened with
  | none =>
    have hpage := hstacked.of_push.1
    simp [Block.isPage, hopened] at hpage
  | some opened =>
    rcases opened with ⟨other, filter⟩
    have hserves := hserved block List.mem_cons_self other filter hopened
    rcases hserves.closes block.lines settings with ⟨lines, hclose⟩
    have hfinish := finishBlock_eq_ok_iff (t := { t with blocks := rest }).2
      ⟨other, filter, settings, lines, hopened, hrestore, hclose, rfl⟩
    exact ⟨_, closeBlock_eq_ok_iff.2 ⟨block, rest, hpush, hname, hfinish⟩, rfl,
      hserved.of_push.feed lines, Blocks.names_feed rest lines⟩

/-- What the matcher says of a line that closes nothing, or the wrong block. -/
theorem closeBlock_of_fault {t : Typesetter} {found : Option Text} {error : DocumentError}
    (hfollow : (Nesting.closes found).follow t.blocks.names = .error error) :
    (t.closeBlock found).1 = .error error := by
  cases hnames : t.blocks.names with
  | nil =>
    rw [hnames] at hfollow
    cases hfollow
    have houter := List.eq_nil_of_length_eq_zero (Blocks.depth_of_names_eq_nil hnames)
    simp [closeBlock, Blocks.pop, houter]
  | cons name names =>
    rcases Blocks.exists_push_of_names hnames with ⟨block, rest, hpush, rfl, -⟩
    rw [hnames] at hfollow
    rw [closeBlock, hpush, Blocks.pop_push]
    cases found with
    | none => cases hfollow
    | some other =>
      by_cases hname : other = block.name
      · simp [Nesting.follow, hname] at hfollow
      · simp only [Nesting.follow, if_neg hname] at hfollow
        cases hfollow
        simp [hname]

/-- Ending a paragraph keeps everything ready. -/
theorem Ready.flush {t : Typesetter} (h : t.Ready) : t.flush.Ready where
  sound := h.sound.flush
  restorable := h.restorable.flush
  confined := h.confined
  filters := h.filters
  served := h.served.feed _

/-- A document accepts a line that the matcher accepts, and has the same blocks open after
it. -/
theorem Ready.feed_of_follow {t : Typesetter} (h : t.Ready) {line : Text} {names : List Text}
    (hline : BlockLine line)
    (hfollow : (Nesting.ofLine line).follow t.blocks.names = .ok names) :
    ∃ u, t.feed line = (.ok (), u) ∧ u.Ready ∧ u.blocks.names = names := by
  have hnames : t.flush.blocks.names = t.blocks.names := Blocks.names_feed ..
  cases hline with
  | plain hline =>
    rw [Nesting.ofLine_of_plain hline] at hfollow
    cases hfollow
    have hfeed : t.feed line = (.ok (), t.feedPlain line) := by simp [Typesetter.feed, hline]
    rcases t.feedPlain_eq line with ⟨-, hrepertoire, lines, hblocks⟩
    refine ⟨_, hfeed, h.feed (.plain hline) hfeed hrepertoire ?_, ?_⟩
    · rw [hblocks]
      exact h.served.feed lines
    · rw [hblocks]
      exact Blocks.names_feed ..
  | opening hline husable =>
    rw [Nesting.ofLine_eq_opens.2 hline] at hfollow
    cases hfollow
    rcases h.flush.openBlock husable with ⟨u, hopen, hrepertoire, hserved, hopened⟩
    have hfeed : t.feed line = (.ok (), u) := (feed_of_directive hline).trans hopen
    exact ⟨u, hfeed, h.feed (.opening hline husable) hfeed hrepertoire hserved,
      by rw [hopened, hnames]⟩
  | closing hline =>
    rw [Nesting.ofLine_eq_closes.2 hline, ← hnames] at hfollow
    rcases h.flush.closeBlock hfollow with ⟨u, hclose, hrepertoire, hserved, hclosed⟩
    have hfeed : t.feed line = (.ok (), u) := (feed_of_directive hline).trans hclose
    exact ⟨u, hfeed, h.feed (.closing hline) hfeed hrepertoire hserved, hclosed⟩

/-- A document refuses a line that the matcher refuses, for the same reason. -/
theorem feed_of_fault {t : Typesetter} {line : Text} {error : DocumentError}
    (hline : BlockLine line)
    (hfollow : (Nesting.ofLine line).follow t.blocks.names = .error error) :
    (t.feed line).1 = .error error := by
  have hnames : t.flush.blocks.names = t.blocks.names := Blocks.names_feed ..
  cases hline with
  | plain hline =>
    rw [Nesting.ofLine_of_plain hline] at hfollow
    cases hfollow
  | opening hline =>
    rw [Nesting.ofLine_eq_opens.2 hline] at hfollow
    cases hfollow
  | closing hline =>
    rw [Nesting.ofLine_eq_closes.2 hline, ← hnames] at hfollow
    rw [feed_of_directive hline]
    exact closeBlock_of_fault hfollow

/-! ## Whole documents -/

end Typesetter

/-- The line that a piece of a stream holds, if it is text. -/
def readLine? (piece : Bytes) : Option Text :=
  (Text.ofUtf8? piece).map dropTerminator

/-- The lines of a stream, if it is text. -/
def streamLines? (input : Bytes) : Option (List Text) :=
  (pieces input).mapM readLine?

/-- Pieces are lines when the first one is, and the rest are. -/
theorem mapM_readLine?_cons_iff {piece : Bytes} {rest : List Bytes} {lines : List Text} :
    (piece :: rest).mapM readLine? = some lines ↔
      ∃ line more, readLine? piece = some line ∧ rest.mapM readLine? = some more ∧
        lines = line :: more := by
  rw [List.mapM_cons]
  constructor
  · intro h
    obtain ⟨line, hline, hrest⟩ := Option.bind_eq_some_iff.1 h
    obtain ⟨more, hmore, heq⟩ := Option.bind_eq_some_iff.1 hrest
    exact ⟨line, more, hline, hmore, (Option.some.inj heq).symm⟩
  · rintro ⟨line, more, hline, hmore, rfl⟩
    rw [hline, hmore]
    rfl

namespace Typesetter

/-- A line that can be read is fed, with its number in front of an error. -/
theorem feedPiece_of_readLine? {piece : Bytes} {line : Text} (h : readLine? piece = some line)
    (t : Typesetter) (number : Nat) :
    t.feedPiece number piece =
      match t.feed line with
      | (.ok _, t) => .ok t
      | (.error error, _) =>
        .error { contexts := [lineContext "line " number], cause := .document error } := by
  unfold feedPiece
  unfold readLine? at h
  cases htext : Text.ofUtf8? piece with
  | none =>
    rw [htext] at h
    cases h
  | some text =>
    rw [htext] at h
    cases h
    rfl

/-- When a piece of a stream is accepted. -/
theorem feedPiece_eq_ok_iff {t u : Typesetter} {number : Nat} {piece : Bytes} :
    t.feedPiece number piece = .ok u ↔
      ∃ line, readLine? piece = some line ∧ t.feed line = (.ok (), u) := by
  cases hread : readLine? piece with
  | none =>
    have htext : Text.ofUtf8? piece = none := Option.map_eq_none_iff.1 hread
    simp [feedPiece, htext]
  | some line =>
    rw [feedPiece_of_readLine? hread]
    rcases hfeed : t.feed line with ⟨answer, v⟩
    cases answer with
    | error error => simp [hfeed]
    | ok _ => simp [hfeed]

/-- A document does with the lines of a stream what the matcher does. -/
theorem Ready.feedPieces {t : Typesetter} (h : t.Ready) (number : Nat) {stream : List Bytes}
    {lines : List Text} (hlines : stream.mapM readLine? = some lines)
    (hblock : ∀ line ∈ lines, BlockLine line) :
    match Nesting.followAll number t.blocks.names (lines.map .ofLine) with
    | .ok names => ∃ u, t.feedPieces number stream = .ok u ∧ u.Ready ∧ u.blocks.names = names
    | .error failure => t.feedPieces number stream = .error failure := by
  induction stream generalizing t number lines with
  | nil =>
    cases hlines
    exact ⟨t, rfl, h, rfl⟩
  | cons piece rest ih =>
    rcases mapM_readLine?_cons_iff.1 hlines with ⟨line, more, hline, hmore, rfl⟩
    rw [List.forall_mem_cons] at hblock
    rw [Typesetter.feedPieces, feedPiece_of_readLine? hline, List.map_cons, Nesting.followAll]
    cases hfollow : (Nesting.ofLine line).follow t.blocks.names with
    | error error =>
      have hfeed := feed_of_fault hblock.1 hfollow
      generalize t.feed line = answer at hfeed ⊢
      rcases answer with ⟨result, next⟩
      cases hfeed
      rfl
    | ok names =>
      rcases h.feed_of_follow hblock.1 hfollow with ⟨next, hfeed, hnext, rfl⟩
      rw [hfeed]
      exact ih hnext (number + 1) hmore hblock.2

/-- At the end of a document an open block is an error, and nothing else is. -/
theorem Ready.renderEnd {t : Typesetter} (h : t.Ready) :
    (∀ name, t.blocks.names.getLast? = some name → t.renderEnd =
      .error { contexts := ["end of input".toList], cause := .document (.unclosedBlock name) }) ∧
    (t.blocks.names.getLast? = none → ∃ page, t.renderEnd = .ok page) := by
  have hfinish : t.finish = _ := h.flush.sound.stacked.pageLines_eq
  have hnames : t.flush.blocks.names = t.blocks.names := Blocks.names_feed ..
  rw [hnames] at hfinish
  constructor
  · intro name hname
    rw [hname] at hfinish
    rw [Typesetter.renderEnd, render, hfinish]
    rfl
  · intro hname
    rw [hname] at hfinish
    rw [Typesetter.renderEnd, render, hfinish]
    exact ⟨_, rfl⟩

/-- A document fails as the matcher says, or not at all. -/
theorem Ready.typeset {t : Typesetter} (h : t.Ready) (hnames : t.blocks.names = [])
    {input : Bytes} {lines : List Text} (hlines : streamLines? input = some lines)
    (hblock : ∀ line ∈ lines, BlockLine line) :
    match Nesting.fault? (lines.map .ofLine) with
    | some failure => t.typeset input = .error failure
    | none => ∃ page, t.typeset input = .ok page := by
  have hfed := h.feedPieces 1 hlines hblock
  rw [hnames] at hfed
  unfold Nesting.fault?
  cases hfollow : Nesting.followAll 1 [] (lines.map .ofLine) with
  | error failure =>
    rw [hfollow] at hfed
    dsimp only at hfed ⊢
    rw [Typesetter.typeset, hfed]
    rfl
  | ok names =>
    rw [hfollow] at hfed
    rcases hfed with ⟨u, hu, hlast, rfl⟩
    have htypeset : t.typeset input = u.renderEnd := by
      rw [Typesetter.typeset, hu]
      rfl
    rw [htypeset]
    cases hopen : u.blocks.names.getLast? with
    | none => simpa only [hopen, Option.map_none] using hlast.renderEnd.2 hopen
    | some name => simpa only [hopen, Option.map_some] using hlast.renderEnd.1 name hopen

/-- A configuration that makes sense starts a document that is ready. -/
theorem ready_prepared {c : Config} (hc : c.problem? = none) (catalog : Table Plugin)
    (ids : List Text) : (prepared c catalog ids).Ready := by
  have hgrown := prepared_start c catalog ids
  have hreachable := reachableInPlace_prepared c catalog ids
  have hsound := hreachable.reachable.sound
  have hwidth : c.width ≤ maxWidth := (Config.problem?_eq_none_iff.1 hc).2.1
  have hinteger : c.width ≤ maxInteger := Nat.le_trans hwidth (by decide)
  have hstart : c.settings.Confined := by
    rw [Config.settings, if_pos hinteger]
    exact Settings.confined_start hwidth ..
  refine ⟨hsound, hreachable.restorable, ⟨hsound.wellFormed, ?_⟩, hgrown.filters, ?_⟩
  · rcases hstart.bottom with ⟨n, horigin, hn⟩
    rcases Option.map_eq_some_iff.1 horigin with ⟨setting, hget, heq⟩
    refine ⟨n, ?_, hn⟩
    rw [Settings.origin?, hgrown.settings _ _ hget, Option.map_some, heq]
  · rw [blocks_prepared]
    intro block hblock name filter hopened
    rw [List.mem_singleton.1 hblock] at hopened
    cases hopened

/-- A document of prose and of blocks under standard filters succeeds exactly when its
blocks are nested and every name matches; otherwise it fails as the matcher says. -/
theorem typeset_blockLines {c : Config} (hc : c.problem? = none) (catalog : Table Plugin)
    (ids : List Text) {input : Bytes} {lines : List Text} (hlines : streamLines? input = some lines)
    (hblock : ∀ line ∈ lines, BlockLine line) :
    ((∃ page, (prepared c catalog ids).typeset input = .ok page) ↔
      ∃ o : Outline, o.lines = lines ∧ o.Named) ∧
    ∀ failure, (prepared c catalog ids).typeset input = .error failure ↔
      Nesting.fault? (lines.map .ofLine) = some failure := by
  have hnames : (prepared c catalog ids).blocks.names = [] := by
    rw [blocks_prepared]
    rfl
  have htypeset := (ready_prepared hc catalog ids).typeset hnames hlines hblock
  rw [← Nesting.fault?_eq_none_iff]
  cases hfault : Nesting.fault? (lines.map .ofLine) with
  | some failure =>
    rw [hfault] at htypeset
    simp [htypeset]
  | none =>
    rw [hfault] at htypeset
    rcases htypeset with ⟨page, hpage⟩
    simp [hpage]

/-- A list item inside a margin, closed under the name of the margin. -/
theorem typeset_blockLines_mismatch :
    (prepared {} Plugin.catalog []).typeset
        (Text.utf8 "@begin margin 4\nword\n@begin li\n@end margin\n".toList) =
      .error { contexts := ["line 4".toList],
               cause := .document (.mismatchedClose "li".toList marginName) } := by
  let lines := ["@begin margin 4".toList, "word".toList, "@begin li".toList, "@end margin".toList]
  have hmargin : Filter.Usable marginName ["4".toList] :=
    .inr ⟨rfl, "4".toList, rfl, 4, by decide, by decide⟩
  have hitem : Filter.Usable "li".toList [] := .inl (by simp)
  obtain ⟨hlines, hfirst, hword, hsecond, hlast, hfault⟩ :
      streamLines? (Text.utf8 "@begin margin 4\nword\n@begin li\n@end margin\n".toList) =
        some lines ∧
      Nesting.ofLine "@begin margin 4".toList = .opens marginName ["4".toList] ∧
      Directive.ofLine? "word".toList = none ∧
      Nesting.ofLine "@begin li".toList = .opens "li".toList [] ∧
      Nesting.ofLine "@end margin".toList = .closes (some marginName) ∧
      Nesting.fault? (lines.map .ofLine) = some
        { contexts := ["line 4".toList],
          cause := .document (.mismatchedClose "li".toList marginName) } := by
    decide +kernel
  have hblock : ∀ line ∈ lines, BlockLine line := by
    intro line hline
    simp only [lines, List.mem_cons, List.not_mem_nil, or_false] at hline
    rcases hline with rfl | rfl | rfl | rfl
    · exact .opening (Nesting.ofLine_eq_opens.1 hfirst) hmargin
    · exact .plain hword
    · exact .opening (Nesting.ofLine_eq_opens.1 hsecond) hitem
    · exact .closing (Nesting.ofLine_eq_closes.1 hlast)
  exact ((typeset_blockLines (c := {}) rfl Plugin.catalog [] hlines hblock).2 _).2 hfault

end Typesetter

end PlainPage
