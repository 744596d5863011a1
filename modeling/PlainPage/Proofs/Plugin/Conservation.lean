import PlainPage.Proofs.Plugin.History
import PlainPage.Proofs.Settings.Extension
import PlainPage.Proofs.Typesetter.Brackets
import PlainPage.Proofs.Typesetter.Passages

/-!
# Plugins that a document does not use

A plugin that is loaded adds settings, commands and filters, and takes no name away.  The
filters and commands that come with the program look at the page width and the alignment and
at nothing else, and give up at the first write that is refused.  So a document that calls no
others comes out the same whether the plugin is loaded or not.

Main results:

- Theorems `Filter.modest_of_shipped` and `Command.modest_of_shipped` say what the filters
  and commands that come with the program see of the settings.
- Theorem `Typesetter.Grown.feed` says that a line which is accepted does the same in a
  document that has gained settings, filters and commands.
- Theorem `Typesetter.typeset_of_load` says that a document which is set without a plugin is
  set the same with it.
-/

namespace PlainPage

/-! ## Filters and commands that come with the program -/

/-- The filters of every document and those of the demonstration plugin. -/
def Filter.shipped : Table Filter :=
  Filter.standard.insertAll Plugin.demo.filters

/-- The commands of every document and those of the demonstration plugin. -/
def Command.shipped : Table Command :=
  Command.standard.insertAll Plugin.demo.commands

/-- A filter that gives up at the first refused write when it opens, and sees nothing of the
settings but the page width when it closes. -/
structure Filter.Modest (filter : Filter) : Prop where
  opening : ∀ args, (filter.opening args).Strict
  close : ∀ lines args (s more : Settings), more.width = s.width →
    filter.close lines args more = filter.close lines args s

/-- A command that sees nothing of the settings but the page width, and leaves them alone. -/
def Command.Modest (command : Command) : Prop :=
  ∀ args (s more : Settings), more.width = s.width →
    (command args).run more = { (command args).run s with settings := more }

namespace Filter

/-- Underlining needs nothing of the settings. -/
theorem modest_underline : underline.Modest where
  opening _ := .done
  close _ _ _ _ _ := rfl

/-- A margin stops at the first refused write, and its close needs no settings. -/
theorem modest_margin : margin.Modest where
  opening args := by
    unfold margin
    dsimp only
    split
    · exact .fail _
    · exact .inspect fun _ _ => .write _ .done
  close _ _ _ _ _ := rfl

theorem modest_twoColumns : twoColumns.Modest where
  opening _ := .inspect fun _ _ => .write _ .done
  close lines args s more h := by
    simp only [twoColumns, h]

theorem modest_listItem : listItem.Modest where
  opening _ := .inspect fun _ _ => .write _ (.write _ .done)
  close _ _ _ _ _ := rfl

theorem modest_reverse : reverse.Modest where
  opening _ := .done
  close _ _ _ _ _ := rfl

theorem modest_underlineAll : underlineAll.Modest where
  opening _ := .done
  close _ _ _ _ _ := rfl

/-- The filters that come with the program are modest. -/
theorem modest_of_shipped {name : Text} {filter : Filter}
    (h : shipped.get? name = some filter) : filter.Modest := by
  have hrows : shipped.rows =
      [("underline".toList, underline), (marginName, margin), ("twocols".toList, twoColumns),
       ("li".toList, listItem), ("reverse".toList, reverse), (underlineAllName, underlineAll)] :=
    rfl
  have hmem := Table.mem_of_find? h
  rw [hrows] at hmem
  simp only [List.mem_cons, Prod.mk.injEq, List.not_mem_nil, or_false] at hmem
  rcases hmem with ⟨-, rfl⟩ | ⟨-, rfl⟩ | ⟨-, rfl⟩ | ⟨-, rfl⟩ | ⟨-, rfl⟩ | ⟨-, rfl⟩
  · exact modest_underline
  · exact modest_margin
  · exact modest_twoColumns
  · exact modest_listItem
  · exact modest_reverse
  · exact modest_underlineAll

end Filter

namespace Command

/-- Vertical space needs the page width. -/
theorem modest_verticalSpace : Modest verticalSpace := by
  intro args s more hwidth
  have hblank : ∀ count, (verticalSpace.blank count).run more =
      { (verticalSpace.blank count).run s with settings := more } := by
    intro count
    simp [verticalSpace.blank, hwidth]
  cases args with
  | nil => exact hblank 1
  | cons raw rest =>
    unfold verticalSpace
    dsimp only
    cases readCount verticalSpaceName raw "expected a line count" with
    | error error => rfl
    | ok count => exact hblank count

theorem modest_horizontalLine : Modest horizontalLine := by
  intro args s more hwidth
  cases args with
  | nil => simp [horizontalLine, hwidth]
  | cons raw rest =>
    unfold horizontalLine
    dsimp only
    cases readCount horizontalLineName raw "expected a length" with
    | error error => rfl
    | ok length => rfl

/-- The commands that come with the program are modest. -/
theorem modest_of_shipped {name : Text} {command : Command}
    (h : shipped.get? name = some command) : command.Modest := by
  have hrows : shipped.rows =
      [(verticalSpaceName, verticalSpace), (horizontalLineName, horizontalLine)] := rfl
  have hmem := Table.mem_of_find? h
  rw [hrows] at hmem
  simp only [List.mem_cons, Prod.mk.injEq, List.not_mem_nil, or_false] at hmem
  rcases hmem with ⟨-, rfl⟩ | ⟨-, rfl⟩
  · exact modest_verticalSpace
  · exact modest_horizontalLine

end Command

/-! ## Documents that call nothing else -/

/-- A line that enables no plugin, and calls no command and no filter but those that come
with the program. -/
def Repertoire.CallsShipped (r : Repertoire) (line : Text) : Prop :=
  match Directive.ofLine? line with
  | some (.ok (.enable _)) => False
  | some (.ok (.openBlock name _)) =>
    ∀ filter, r.filters.get? name = some filter → Filter.shipped.get? name = some filter
  | some (.ok (.run name _)) =>
    ∀ command, r.commands.get? name = some command → Command.shipped.get? name = some command
  | _ => True

namespace Blocks

/-- All open blocks are under filters that come with the program. -/
def Shipped (b : Blocks) : Prop :=
  ∀ block ∈ b.toList, ∀ name filter, block.opened = some (name, filter) →
    Filter.shipped.get? name = some filter

theorem Shipped.feed {b : Blocks} (h : b.Shipped) (lines : List Text) :
    (b.feed lines).Shipped :=
  forall_mem_feed (fun _ _ hshipped => hshipped) h lines

/-- A block with a shipped filter may be opened above others. -/
theorem Shipped.push {b : Blocks} (h : b.Shipped) {name : Text} {filter : Filter}
    (hfilter : Filter.shipped.get? name = some filter) (args : List Text) (marks : Marks) :
    (b.push { opened := some (name, filter), args, marks }).Shipped := by
  refine forall_mem_push.2 ⟨?_, h⟩
  intro other found heq
  cases heq
  exact hfilter

theorem Shipped.of_push {b : Blocks} {block : Block} (h : (b.push block).Shipped) : b.Shipped :=
  (forall_mem_push.1 h).2

end Blocks

namespace Typesetter

/-! ## The same steps in a document that has gained something -/

/-- When a command succeeds, and what that leaves. -/
theorem callCommand_eq_ok_iff {t u : Typesetter} {name : Text} {args : List Text} :
    t.callCommand name args = (.ok (), u) ↔
      ∃ command, t.repertoire.commands.get? name = some command ∧
        ((command args).run t.settings).result = .ok () ∧
        u = { t with
          settings := ((command args).run t.settings).settings
          blocks := t.blocks.feed ((command args).run t.settings).lines } := by
  unfold callCommand
  cases hcommand : t.repertoire.commands.get? name with
  | none => simp
  | some command =>
    rw [Prod.mk.injEq, mapError_eq_ok_iff]
    constructor
    · rintro ⟨hresult, rfl⟩
      exact ⟨command, rfl, hresult, rfl⟩
    · rintro ⟨found, heq, hresult, rfl⟩
      cases heq
      exact ⟨hresult, rfl⟩

/-- A line that enables no plugin leaves the repertoire alone. -/
theorem repertoire_of_callsShipped {t u : Typesetter} {line : Text}
    (hline : t.repertoire.CallsShipped line) (hfeed : t.feed line = (.ok (), u)) :
    u.repertoire = t.repertoire := by
  have hacquires := t.acquires_take (.feed line)
  have hnone : t.loads? (.feed line) = none := by
    unfold Repertoire.CallsShipped at hline
    rw [loads?]
    split
    · rename_i hread
      rw [hread] at hline
      exact hline.elim
    · rfl
  rw [hnone, take, hfeed] at hacquires
  cases hacquires with
  | nothing hrepertoire => exact hrepertoire

namespace Grown

variable {t u next : Typesetter}

/-- With more settings, lines are aligned the same. -/
theorem align_eq (h : t.Grown u) (hwell : t.settings.WellFormed) : u.align = t.align := by
  funext line
  rw [align, align, hwell.alignment_of_extends h.settings, hwell.width_of_extends h.settings]

/-- With more settings, lines are written the same. -/
theorem write (h : t.Grown u) (lines : List Text) : (t.write lines).Grown (u.write lines) := by
  refine ⟨?_, h.paragraph, h.settings, h.filters, h.commands⟩
  rw [Typesetter.write, Typesetter.write, h.blocks]

/-- With more settings, a paragraph is ended the same. -/
theorem flush (h : t.Grown u) (hwell : t.settings.WellFormed) : t.flush.Grown u.flush := by
  have hpending : u.pendingLines = t.pendingLines := by
    rw [pendingLines, pendingLines, h.paragraph, h.align_eq hwell]
  refine ⟨?_, rfl, h.settings, h.filters, h.commands⟩
  rw [Typesetter.flush, Typesetter.flush, hpending, h.blocks]

/-- With more settings, a line of prose fills the paragraph the same. -/
theorem feedProse (h : t.Grown u) (hwell : t.settings.WellFormed) (line : Text) :
    (t.feedProse line).Grown (u.feedProse line) := by
  have hwidth := hwell.width_of_extends h.settings
  have hindent := hwell.indent_of_extends h.settings
  unfold Typesetter.feedProse
  rw [h.paragraph, hindent, hwidth, h.align_eq hwell, h.blocks]
  exact ⟨rfl, rfl, h.settings, h.filters, h.commands⟩

/-- A line that is no directive. -/
theorem feedPlain (h : t.Grown u) (hwell : t.settings.WellFormed) (line : Text) :
    (t.feedPlain line).Grown (u.feedPlain line) := by
  unfold Typesetter.feedPlain
  rw [hwell.pre_of_extends h.settings]
  by_cases hpre : t.settings.pre = true
  · rw [if_pos hpre, if_pos hpre]
    exact h.write [line]
  · rw [if_neg hpre, if_neg hpre]
    by_cases hcomment : isComment line = true
    · rw [if_pos hcomment, if_pos hcomment]
      exact h
    · rw [if_neg hcomment, if_neg hcomment]
      by_cases hblank : Text.isBlank line = true
      · rw [if_pos hblank, if_pos hblank]
        exact h.flush hwell
      · rw [if_neg hblank, if_neg hblank]
        exact h.feedProse hwell line

/-- A block is opened under a filter that comes with the program. -/
theorem openBlock (h : t.Grown u) (hwell : t.settings.WellFormed) {name : Text}
    {args : List Text} (hshipped : t.blocks.Shipped)
    (hname : ∀ filter, t.repertoire.filters.get? name = some filter →
      Filter.shipped.get? name = some filter)
    (hopen : t.openBlock name args = (.ok (), next)) :
    ∃ v, u.openBlock name args = (.ok (), v) ∧ next.Grown v ∧ next.blocks.Shipped := by
  obtain ⟨filter, settings, marks, hfilter, hrun, rfl⟩ := openBlock_eq_ok_iff.1 hopen
  have hmodest := Filter.modest_of_shipped (hname filter hfilter)
  have hstart : MarkedSettings.Widens { settings := u.settings } { settings := t.settings } :=
    ⟨h.settings, rfl⟩
  rcases (hmodest.opening args).exists_run_of_extends hwell hstart hrun with
    ⟨⟨more, found⟩, hlast, hextends, hmarks⟩
  cases hmarks
  have hget := h.filters name filter hfilter
  refine ⟨_, openBlock_eq_ok_iff.2 ⟨filter, more, marks, hget, hlast, rfl⟩,
    ⟨?_, h.paragraph, hextends, h.filters, h.commands⟩,
    hshipped.push (hname filter hfilter) args marks⟩
  rw [h.blocks]

/-- A block is closed that is under a filter which comes with the program. -/
theorem closeBlock (h : t.Grown u) (hwell : t.settings.WellFormed) {found : Option Text}
    (hshipped : t.blocks.Shipped) (hclose : t.closeBlock found = (.ok (), next)) :
    ∃ v, u.closeBlock found = (.ok (), v) ∧ next.Grown v ∧ next.blocks.Shipped := by
  rcases closeBlock_eq_ok_iff.1 hclose with ⟨block, rest, hpush, hname, hfinish⟩
  obtain ⟨name, filter, settings, lines, hopened, hrestore, hlines, rfl⟩ :=
    finishBlock_eq_ok_iff.1 hfinish
  rw [hpush] at hshipped
  have hmodest := Filter.modest_of_shipped (hshipped block List.mem_cons_self name filter hopened)
  rcases Marks.exists_restore_of_extends hrestore h.settings with ⟨more, hmore, hextends⟩
  have hrestored : settings.WellFormed :=
    (Marks.leads_of_cutBack Settings.steady_true.truncate hrestore trivial).2.wellFormed hwell
  have hwidth := hrestored.width_of_extends hextends
  -- The filter closes under the settings around the block, so the width is read after the cut.
  have hsame : filter.close block.lines block.args more = .ok lines := by
    rw [hmodest.close _ _ settings more hwidth]
    exact hlines
  have hblocks : u.blocks = rest.push block := h.blocks.trans hpush
  exact ⟨_, closeBlock_eq_ok_iff.2 ⟨block, rest, hblocks, hname, finishBlock_eq_ok_iff.2
    ⟨name, filter, more, lines, hopened, hmore, hsame, rfl⟩⟩,
    ⟨rfl, h.paragraph, hextends, h.filters, h.commands⟩, hshipped.of_push.feed lines⟩

/-- A write to the settings by a directive. -/
theorem withSettings (h : t.Grown u) (hshipped : t.blocks.Shipped) {change : Settings.Change}
    (hchange : ∀ name kind default, change ≠ .declare name kind default)
    (hwrite : t.withSettings (t.settings.apply change) = (.ok (), next)) :
    ∃ v, u.withSettings (u.settings.apply change) = (.ok (), v) ∧ next.Grown v ∧
      next.blocks.Shipped := by
  rcases withSettings_eq_ok_iff.1 hwrite with ⟨s, happly, rfl⟩
  rcases Settings.exists_apply_of_extends happly h.settings hchange with ⟨more, hmore, hextends⟩
  exact ⟨_, withSettings_eq_ok_iff.2 ⟨more, hmore, rfl⟩,
    ⟨h.blocks, h.paragraph, hextends, h.filters, h.commands⟩, hshipped⟩

/-- A command is run that comes with the program. -/
theorem callCommand (h : t.Grown u) (hwell : t.settings.WellFormed) {name : Text}
    {args : List Text} (hshipped : t.blocks.Shipped)
    (hname : ∀ command, t.repertoire.commands.get? name = some command →
      Command.shipped.get? name = some command)
    (hcall : t.callCommand name args = (.ok (), next)) :
    ∃ v, u.callCommand name args = (.ok (), v) ∧ next.Grown v ∧ next.blocks.Shipped := by
  obtain ⟨command, hcommand, hresult, rfl⟩ := callCommand_eq_ok_iff.1 hcall
  have hmodest := Command.modest_of_shipped (hname command hcommand)
  have hsettings : ((command args).run t.settings).settings = t.settings :=
    congrArg Effect.settings (hmodest args t.settings t.settings rfl)
  have hrun := hmodest args t.settings u.settings (hwell.width_of_extends h.settings)
  have hsame : ((command args).run u.settings).result = .ok () := by
    rw [hrun]
    exact hresult
  refine ⟨_, callCommand_eq_ok_iff.2 ⟨command, h.commands name command hcommand, hsame, rfl⟩,
    ⟨?_, h.paragraph, ?_, h.filters, h.commands⟩, hshipped.feed _⟩
  · rw [hrun, h.blocks]
  · rw [hrun, hsettings]
    exact h.settings

/-- A line that is accepted does the same in a document that has gained something, if it
calls nothing but what comes with the program. -/
theorem feed (h : t.Grown u) (hwell : t.settings.WellFormed) (hshipped : t.blocks.Shipped)
    {line : Text} (hline : t.repertoire.CallsShipped line)
    (hfeed : t.feed line = (.ok (), next)) :
    ∃ v, u.feed line = (.ok (), v) ∧ next.Grown v ∧ next.blocks.Shipped := by
  have hflush := h.flush hwell
  have hended : t.flush.blocks.Shipped := hshipped.feed _
  unfold Repertoire.CallsShipped at hline
  unfold Typesetter.feed at hfeed ⊢
  cases hread : Directive.ofLine? line with
  | none =>
    rw [hread] at hfeed
    cases hfeed
    refine ⟨_, rfl, h.feedPlain hwell line, ?_⟩
    rcases (t.feedPlain_eq line).2.2 with ⟨lines, hblocks⟩
    rw [hblocks]
    exact hshipped.feed lines
  | some read =>
    rw [hread] at hline hfeed
    cases read with
    | error error => cases hfeed
    | ok directive =>
      cases directive with
      | openBlock name args => exact hflush.openBlock hwell hended hline hfeed
      | closeBlock found => exact hflush.closeBlock hwell hended hfeed
      | set name value =>
        have hset : t.flush.withSettings (t.flush.settings.apply (.set name value)) =
            (.ok (), next) := hfeed
        exact hflush.withSettings hended (by simp) hset
      | unset name =>
        have hunset : t.flush.withSettings (t.flush.settings.apply (.unset name)) =
            (.ok (), next) := hfeed
        exact hflush.withSettings hended (by simp) hunset
      | enable id => exact hline.elim
      | run name args => exact hflush.callCommand hwell hended hline hfeed

/-- The lines of a document. -/
theorem feedPieces (h : t.Grown u) (hwell : t.settings.WellFormed) (hshipped : t.blocks.Shipped)
    {stream : List Bytes} {number : Nat}
    (hlines : ∀ piece ∈ stream, ∀ line, readLine? piece = some line →
      t.repertoire.CallsShipped line)
    (hfeed : t.feedPieces number stream = .ok next) :
    ∃ v, u.feedPieces number stream = .ok v ∧ next.Grown v ∧ next.settings.WellFormed := by
  induction stream generalizing t u number with
  | nil =>
    cases hfeed
    exact ⟨u, rfl, h, hwell⟩
  | cons piece rest ih =>
    rcases bind_eq_ok_iff.1 hfeed with ⟨middle, hpiece, hrest⟩
    rcases feedPiece_eq_ok_iff.1 hpiece with ⟨line, hread, hline⟩
    have hcalls := hlines piece List.mem_cons_self line hread
    rcases h.feed hwell hshipped hcalls hline with ⟨v, hv, hgrown, hopen⟩
    -- The line has not changed the repertoire, so the other lines still call the same things.
    have hnext := wellFormed_take hwell (.feed line)
    rw [take, hline] at hnext
    rw [← repertoire_of_callsShipped hcalls hline] at hlines
    rcases ih hgrown hnext hopen
        (fun other hother => hlines other (List.mem_cons_of_mem _ hother)) hrest with
      ⟨last, hlast, hend⟩
    exact ⟨last, bind_eq_ok_iff.2 ⟨v, feedPiece_eq_ok_iff.2 ⟨line, hread, hv⟩, hlast⟩, hend⟩

end Grown

/-! ## Whole documents -/

/-- A document that calls nothing but what comes with the program.  The blocks that are
already open count, too: the document has to close them. -/
structure CallsShipped (t : Typesetter) (input : Bytes) : Prop where
  blocks : t.blocks.Shipped
  lines : ∀ piece ∈ pieces input, ∀ line, readLine? piece = some line →
    t.repertoire.CallsShipped line

/-- A document that is set without a plugin comes out the same when the plugin is loaded
first, if it enables no plugin and calls nothing but what comes with the program. -/
theorem typeset_of_load {t u : Typesetter} {p : Plugin} (ht : Reachable t)
    (hload : t.load p = (.ok (), u)) {input : Bytes} {page : Text}
    (hcalls : t.CallsShipped input) (h : t.typeset input = .ok page) :
    u.typeset input = .ok page := by
  have hgrown := t.grown_load p
  rw [hload] at hgrown
  rcases bind_eq_ok_iff.1 h with ⟨last, hfeed, hrender⟩
  rcases hgrown.feedPieces ht.wellFormed hcalls.blocks hcalls.lines hfeed with
    ⟨v, hv, hlast, hwell⟩
  have hblocks := (hlast.flush hwell).blocks
  have hsame : v.renderEnd = last.renderEnd := by
    rw [renderEnd, renderEnd, render, render, finish, finish, hblocks]
  refine bind_eq_ok_iff.2 ⟨v, hv, ?_⟩
  rw [hsame]
  exact hrender

/-- A document that turns words around and draws a line comes out the same with another plugin
beside the demonstration plugin. -/
theorem typeset_of_load_unused :
    let extra : Plugin := {
      id := "extra".toList
      version := { major := 1 }
      depends := [{ id := demoId }]
      commands := [("stamp".toList, Command.verticalSpace)]
      filters := [("frame".toList, Filter.underline)]
      settings := [{ name := "hue".toList, kind := .integer, default := .integer 7 }] }
    let t := ((ofConfig { width := 5 }).load .demo).2
    (t.load extra).1 = .ok () ∧
    (t.load extra).2.typeset (Text.utf8 "@begin reverse\nabc\n@end\n@horizontal-line\n".toList) =
      .ok "cba  \n-----\n".toList := by
  intro extra t
  have ht : Reachable t := (Reachable.start { width := 5 }).step (.load .demo)
  have hload : t.load extra = (.ok (), (t.load extra).2) := eq_ok_of_isOk (by decide +kernel)
  obtain ⟨hlines, hbegin, hword, hend, hrun, hpage⟩ :
      (pieces (Text.utf8 "@begin reverse\nabc\n@end\n@horizontal-line\n".toList)).map readLine? =
        [some "@begin reverse".toList, some "abc".toList, some "@end".toList,
         some "@horizontal-line".toList] ∧
      (Directive.ofLine? "@begin reverse".toList).bind Except.toOption =
        some (.openBlock "reverse".toList []) ∧
      Directive.ofLine? "abc".toList = none ∧
      (Directive.ofLine? "@end".toList).bind Except.toOption = some (.closeBlock none) ∧
      (Directive.ofLine? "@horizontal-line".toList).bind Except.toOption =
        some (.run horizontalLineName []) ∧
      (t.typeset (Text.utf8 "@begin reverse\nabc\n@end\n@horizontal-line\n".toList)).toOption =
        some "cba  \n-----\n".toList := by
    decide +kernel
  have hcalls : t.CallsShipped
      (Text.utf8 "@begin reverse\nabc\n@end\n@horizontal-line\n".toList) := by
    refine ⟨?_, ?_⟩
    · intro block hblock name filter hopened
      rw [List.mem_singleton.1 hblock] at hopened
      cases hopened
    · intro piece hpiece line hread
      have hmem := List.mem_map.2 ⟨piece, hpiece, hread⟩
      rw [hlines] at hmem
      simp only [List.mem_cons, Option.some.injEq, List.not_mem_nil, or_false] at hmem
      rcases hmem with rfl | rfl | rfl | rfl
      · rw [Repertoire.CallsShipped, Directive.ofLine?_of_toOption hbegin]
        intro filter hget
        cases hget
        rfl
      · rw [Repertoire.CallsShipped, hword]
        trivial
      · rw [Repertoire.CallsShipped, Directive.ofLine?_of_toOption hend]
        trivial
      · rw [Repertoire.CallsShipped, Directive.ofLine?_of_toOption hrun]
        intro command hget
        cases hget
        rfl
  refine ⟨by rw [hload], ?_⟩
  exact typeset_of_load ht hload hcalls (toOption_eq_some_iff.1 hpage)

end Typesetter

end PlainPage
