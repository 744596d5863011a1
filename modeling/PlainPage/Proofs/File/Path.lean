import PlainPage.File.Path

/-!
# The directories around a path

The directories around a path are found in its text.  Each of them is a beginning of the text
and leads along a beginning of its steps, which are the segments that are neither empty nor a
single point.  So a path that is written from the current directory has fewer directories
around it than the same path written from the root.

Main results:

- Definition `Path.steps` are the segments of a path that lead somewhere.
- Theorem `Path.steps_join` says where the path of a name in a directory leads.
- Theorem `Path.ancestors_ofReversed` says which directories are around a directory around a
  path.
- Theorem `Path.mem_outward` says where the directories around a path lead.
- Theorem `Path.pairwise_ancestors` says that from the root no two of them lead along the same
  steps.
-/

namespace PlainPage

namespace Path

variable {p q : Path} {absolute : Bool} {reversed : List Text} {segment : Text}

/-! ## Steps -/

/-- Whether a segment leads nowhere: it is empty or a single point. -/
def idles (segment : Text) : Bool :=
  segment == [] || segment == here

/-- The segments of a path that lead somewhere. -/
def steps (p : Path) : List Text :=
  p.segments.filter (!idles ·)

/-- The steps along segments that are listed from the last to the first. -/
def stepsOf (reversed : List Text) : List Text :=
  (reversed.filter (!idles ·)).reverse

/-- The steps of a path, from its segments. -/
theorem steps_eq (p : Path) : p.steps = stepsOf p.segments.reverse := by
  rw [stepsOf, List.filter_reverse, List.reverse_reverse, steps]

/-- A segment that leads nowhere is no step. -/
theorem stepsOf_cons_of_idles (h : idles segment = true) (reversed : List Text) :
    stepsOf (segment :: reversed) = stepsOf reversed := by
  rw [stepsOf, List.filter_cons_of_neg (by simp [h]), stepsOf]

/-- Any other segment is the last step. -/
theorem stepsOf_cons (h : idles segment = false) (reversed : List Text) :
    stepsOf (segment :: reversed) = stepsOf reversed ++ [segment] := by
  rw [stepsOf, List.filter_cons_of_pos (by simp [h]), List.reverse_cons, stepsOf]

theorem isIdle_absolute (first : Bool) (segment : Text) :
    isIdle true first segment = idles segment := by
  simp [isIdle, idles]

theorem isIdle_inner (absolute : Bool) (segment : Text) :
    isIdle absolute false segment = idles segment := by
  simp [isIdle, idles]

/-- What means nothing leads nowhere. -/
theorem idles_of_isIdle {first : Bool} (h : isIdle absolute first segment = true) :
    idles segment = true := by
  simp only [isIdle, Bool.or_eq_true, Bool.and_eq_true] at h
  rcases h with hempty | ⟨hhere, -⟩
  · simp [idles, hempty]
  · simp [idles, hhere]

/-- A segment that leads somewhere is never skipped. -/
theorem isIdle_eq_false (h : idles segment = false) (absolute first : Bool) :
    isIdle absolute first segment = false := by
  cases hidle : isIdle absolute first segment with
  | false => rfl
  | true => rw [idles_of_isIdle hidle] at h; cases h

/-- Only in front does a segment that leads nowhere mean something. -/
theorem eq_nil_of_not_isIdle (h : idles segment = true)
    (hkept : isIdle absolute reversed.isEmpty segment = false) : reversed = [] := by
  cases reversed with
  | nil => rfl
  | cons next rest =>
    rw [List.isEmpty_cons, isIdle_inner, h] at hkept
    cases hkept

/-- The steps of a path can be told from its components. -/
theorem steps_eq_filter_components (p : Path) : p.steps = p.components.filter (!idles ·) := by
  unfold steps components
  cases p.segments with
  | nil => rfl
  | cons first rest =>
    have hrest : (rest.filter (!isIdle p.isAbsolute false ·)).filter (!idles ·) =
        rest.filter (!idles ·) := by
      simp [isIdle_inner]
    dsimp only
    rw [List.filter_append, hrest]
    cases hidle : isIdle p.isAbsolute true first with
    | true => simp [idles_of_isIdle hidle]
    | false => cases hfirst : idles first <;> simp [hfirst]

/-- From the root, every segment that means something leads somewhere. -/
theorem components_of_absolute (h : p.isAbsolute = true) : p.components = p.steps := by
  unfold components steps
  rw [h]
  cases p.segments with
  | nil => rfl
  | cons first rest => cases hfirst : idles first <;> simp [isIdle_absolute, hfirst]

/-- Paths with the same components lead along the same steps, from the same origin. -/
theorem steps_eq_of_same (h : p.same q = true) :
    p.isAbsolute = q.isAbsolute ∧ p.steps = q.steps := by
  simp only [same, Bool.and_eq_true, beq_iff_eq] at h
  rw [steps_eq_filter_components, steps_eq_filter_components, h.2]
  exact ⟨h.1, rfl⟩

/-- From the root, the steps of a path decide about its components. -/
theorem same_iff_of_absolute (h : p.isAbsolute = true) :
    p.same q = true ↔ q.isAbsolute = true ∧ p.steps = q.steps := by
  refine ⟨fun hsame => ?_, fun hsteps => ?_⟩
  · rcases steps_eq_of_same hsame with ⟨habsolute, hsteps⟩
    exact ⟨habsolute ▸ h, hsteps⟩
  · simp [same, h, hsteps.1, components_of_absolute, hsteps.2]

/-! ## Names in directories -/

/-- A path without the slash of the root. -/
def body (p : Path) : Text :=
  if p.isAbsolute then p.tail else p

/-- The segments stand between the slashes of the body. -/
theorem segments_eq (p : Path) : p.segments = List.splitOn '/' p.body := by
  unfold segments body
  split <;> rfl

/-- A longer path is absolute exactly when its start is. -/
theorem isAbsolute_append (hne : p ≠ []) (rest : Text) :
    isAbsolute (p ++ rest) = p.isAbsolute := by
  cases p with
  | nil => exact absurd rfl hne
  | cons c tail => rfl

theorem body_append (hne : p ≠ []) (rest : Text) : body (p ++ rest) = p.body ++ rest := by
  unfold body
  rw [isAbsolute_append hne]
  cases p with
  | nil => exact absurd rfl hne
  | cons c tail => split <;> rfl

theorem isAbsolute_eq_false_of_not_mem (h : '/' ∉ p) : p.isAbsolute = false := by
  cases p with
  | nil => rfl
  | cons c tail =>
    have hc : c ≠ '/' := fun heq => h (by simp [heq])
    simpa [isAbsolute] using hc

/-- Behind a slash stands a segment of its own. -/
theorem segments_append_slash (hne : p ≠ []) {name : Text} (hname : '/' ∉ name) :
    segments (p ++ '/' :: name) = p.segments ++ [name] := by
  rw [segments_eq, body_append hne, List.splitOn_append_cons_self,
    List.splitOn_eq_singleton hname, segments_eq]

/-- A name in a directory is one more segment, behind segments that lead to the directory. -/
theorem exists_segments_join (directory : Path) {name : Text} (hname : '/' ∉ name) :
    ∃ around, (directory.join name).segments = around ++ [name] ∧
      around.filter (!idles ·) = directory.steps ∧
      (directory.join name).isAbsolute = directory.isAbsolute := by
  have hrelative := isAbsolute_eq_false_of_not_mem hname
  have hsingle : name.splitOn '/' = [name] := List.splitOn_eq_singleton hname
  rw [join, hrelative, if_neg Bool.false_ne_true]
  by_cases hslash : directory = [] ∨ directory.getLast? = some '/'
  · rw [if_pos hslash]
    rcases hslash with rfl | hslash
    · refine ⟨[], ?_, rfl, hrelative⟩
      rw [List.nil_append, segments, hrelative]
      exact hsingle
    · obtain ⟨start, rfl⟩ := List.getLast?_eq_some_iff.1 hslash
      rw [List.append_assoc, List.singleton_append]
      cases start with
      | nil => exact ⟨[], hsingle, rfl, rfl⟩
      | cons c tail =>
        refine ⟨segments (c :: tail), segments_append_slash (by simp) hname, ?_, rfl⟩
        rw [steps, segments_append_slash (by simp) (by simp), List.filter_append]
        simp [idles]
  · rw [if_neg hslash]
    have hne : directory ≠ [] := fun heq => hslash (.inl heq)
    exact ⟨directory.segments, segments_append_slash hne hname, rfl, isAbsolute_append hne _⟩

/-- A name in a directory leads one step further than the directory. -/
theorem steps_join (directory : Path) {name : Text} (hname : '/' ∉ name)
    (hplain : idles name = false) : (directory.join name).steps = directory.steps ++ [name] := by
  rcases exists_segments_join directory hname with ⟨around, hsegments, haround, -⟩
  rw [steps, hsegments, List.filter_append, haround]
  simp [hplain]

/-- A relative name is appended to a directory, with a slash between them if there is none. -/
theorem join_eq (directory : Path) {name : Path} (h : name.isAbsolute = false) :
    directory.join name = directory ++ name ∨ directory.join name = directory ++ '/' :: name := by
  rw [join, h, if_neg Bool.false_ne_true]
  split
  · exact .inl rfl
  · exact .inr rfl

/-! ## Segments from the last to the first -/

/-- Whether segments, listed from the last to the first, are those of a path that does not
turn absolute when it is written. -/
def Written (absolute : Bool) (reversed : List Text) : Prop :=
  (∀ segment ∈ reversed, '/' ∉ segment) ∧ (absolute = false → reversed.getLast? ≠ some [])

/-- The start of a written path is written. -/
theorem Written.of_suffix {shorter : List Text} (h : Written absolute reversed)
    (hsuffix : shorter <:+ reversed) : Written absolute shorter := by
  refine ⟨fun segment hsegment => h.1 segment (hsuffix.subset hsegment), fun habsolute hlast => ?_⟩
  obtain ⟨rest, rfl⟩ := hsuffix
  exact h.2 habsolute (by rw [List.getLast?_append, hlast, Option.some_or])

theorem Written.tail (h : Written absolute (segment :: reversed)) : Written absolute reversed :=
  h.of_suffix (List.suffix_cons _ _)

/-- The segments of a path can be written. -/
theorem written_segments (h : p ≠ []) : Written p.isAbsolute p.segments.reverse := by
  refine ⟨fun segment hsegment hslash => ?_, fun hrelative hlast => ?_⟩
  · rw [List.mem_reverse, segments_eq] at hsegment
    exact Text.not_mem_of_mem_splitOn hsegment hslash
  · rw [List.getLast?_reverse, segments, hrelative] at hlast
    cases p with
    | nil => exact h rfl
    | cons c tail =>
      have hc : (c == '/') = false := by simpa [isAbsolute] using hrelative
      have hne := List.splitOn_ne_nil '/' tail
      rw [if_neg Bool.false_ne_true, List.splitOn_cons_eq_if_modifyHead, hc,
        if_neg Bool.false_ne_true] at hlast
      cases hpieces : tail.splitOn '/' with
      | nil => exact hne hpieces
      | cons first rest => simp [hpieces] at hlast

/-- A path is written with its segments. -/
theorem ofReversed_segments (p : Path) : ofReversed p.isAbsolute p.segments.reverse = p := by
  have hbody : List.intercalate ['/'] p.segments = p.body := by
    rw [segments_eq, List.intercalate_splitOn]
  rw [ofReversed, List.reverse_reverse, hbody, body]
  cases habsolute : p.isAbsolute with
  | false => rfl
  | true =>
    cases p with
    | nil => cases habsolute
    | cons c tail =>
      have hc : c = '/' := by simpa [isAbsolute] using habsolute
      simp [hc]

/-- Written segments are read back. -/
theorem segments_ofReversed (h : Written absolute reversed) (hne : reversed ≠ []) :
    (ofReversed absolute reversed).isAbsolute = absolute ∧
      (ofReversed absolute reversed).segments = reversed.reverse := by
  have hsplit : List.splitOn '/' (List.intercalate ['/'] reversed.reverse) = reversed.reverse :=
    List.splitOn_intercalate '/' (fun piece hpiece => h.1 piece (by simpa using hpiece))
      (by simpa using hne)
  cases absolute with
  | true =>
    refine ⟨rfl, ?_⟩
    rw [segments_eq]
    exact hsplit
  | false =>
    have hrelative : isAbsolute (List.intercalate ['/'] reversed.reverse) = false := by
      obtain ⟨more, first, rfl⟩ : ∃ more first, reversed = more ++ [first] :=
        ⟨_, _, (List.dropLast_concat_getLast hne).symm⟩
      rw [List.reverse_append, List.reverse_singleton, List.singleton_append]
      cases first with
      | nil => exact absurd (by simp) (h.2 rfl)
      | cons c tail =>
        have hc : c ≠ '/' := fun heq => h.1 (c :: tail) (by simp) (by simp [heq])
        cases more.reverse <;> simpa [List.intercalate_cons_cons, isAbsolute] using hc
    refine ⟨hrelative, ?_⟩
    rw [segments_eq, body]
    simp only [ofReversed, Bool.false_eq_true, if_false, List.nil_append, hrelative]
    exact hsplit

/-- A path that is put together again is as absolute as it was. -/
theorem isAbsolute_ofReversed (h : Written absolute reversed) :
    (ofReversed absolute reversed).isAbsolute = absolute := by
  cases reversed with
  | nil => cases absolute <;> rfl
  | cons segment rest => exact (segments_ofReversed h (by simp)).1

/-- It also has the same steps. -/
theorem steps_ofReversed (h : Written absolute reversed) :
    (ofReversed absolute reversed).steps = stepsOf reversed := by
  cases reversed with
  | nil => cases absolute <;> rfl
  | cons segment rest =>
    rw [steps_eq, (segments_ofReversed h (by simp)).2, List.reverse_reverse]

/-! ## Directories from the inside -/

/-- Only segments at the end are dropped. -/
theorem dropIdle_suffix (absolute : Bool) (reversed : List Text) :
    dropIdle absolute reversed <:+ reversed := by
  induction reversed with
  | nil => exact List.suffix_rfl
  | cons segment rest ih =>
    rw [dropIdle]
    split
    · exact ih.trans (List.suffix_cons _ _)
    · exact List.suffix_rfl

/-- Dropping segments that lead nowhere keeps the steps. -/
theorem stepsOf_dropIdle (absolute : Bool) (reversed : List Text) :
    stepsOf (dropIdle absolute reversed) = stepsOf reversed := by
  induction reversed with
  | nil => rfl
  | cons segment rest ih =>
    rw [dropIdle]
    split
    · rename_i hidle
      rw [ih, stepsOf_cons_of_idles (idles_of_isIdle hidle)]
    · rfl

/-- It also keeps the directories around. -/
theorem outerPaths_dropIdle (absolute : Bool) (reversed : List Text) :
    outerPaths absolute (dropIdle absolute reversed) = outerPaths absolute reversed := by
  induction reversed with
  | nil => rfl
  | cons segment rest ih =>
    rw [dropIdle]
    split
    · rename_i hidle
      rw [ih, outerPaths, if_pos hidle]
    · rfl

/-- The directory with the given segments and the directories around it. -/
def outward (absolute : Bool) (reversed : List Text) : List Path :=
  ofReversed absolute (dropIdle absolute reversed) :: outerPaths absolute reversed

/-- Around a step are the directory before it and those around that one. -/
theorem outerPaths_of_not_isIdle (h : isIdle absolute reversed.isEmpty segment = false) :
    outerPaths absolute (segment :: reversed) = outward absolute reversed := by
  rw [outerPaths, h, outward]
  rfl

/-- The directories around a directory around a path. -/
theorem ancestors_ofReversed (h : Written absolute reversed) :
    ancestors (ofReversed absolute (dropIdle absolute reversed)) = outward absolute reversed := by
  have hwritten := h.of_suffix (dropIdle_suffix absolute reversed)
  rw [ancestors, outward, isAbsolute_ofReversed hwritten]
  congr 1
  cases hkept : dropIdle absolute reversed with
  | nil =>
    rw [← outerPaths_dropIdle absolute reversed, hkept]
    cases absolute <;> rfl
  | cons segment rest =>
    rw [hkept] at hwritten
    rw [(segments_ofReversed hwritten (by simp)).2, List.reverse_reverse, ← hkept,
      outerPaths_dropIdle]

/-- The directory before a step is as absolute as the path and has the steps before it. -/
theorem steps_ofReversed_dropIdle (h : Written absolute reversed) :
    (ofReversed absolute (dropIdle absolute reversed)).isAbsolute = absolute ∧
      (ofReversed absolute (dropIdle absolute reversed)).steps = stepsOf reversed := by
  have hwritten := h.of_suffix (dropIdle_suffix absolute reversed)
  rw [isAbsolute_ofReversed hwritten, steps_ofReversed hwritten, stepsOf_dropIdle]
  exact ⟨rfl, rfl⟩

/-- The directories around a path have a beginning of its segments. -/
theorem exists_of_mem_outward {directory : Path} (h : directory ∈ outward absolute reversed) :
    ∃ shorter, shorter <:+ reversed ∧
      directory = ofReversed absolute (dropIdle absolute shorter) := by
  induction reversed with
  | nil =>
    rw [outward, outerPaths, List.mem_singleton] at h
    exact ⟨[], List.suffix_rfl, h⟩
  | cons segment rest ih =>
    rcases List.mem_cons.1 h with rfl | houter
    · exact ⟨_, List.suffix_rfl, rfl⟩
    · have hrest : directory ∈ outward absolute rest := by
        rw [outerPaths] at houter
        split at houter
        · exact List.mem_cons_of_mem _ houter
        · exact houter
      rcases ih hrest with ⟨shorter, hsuffix, heq⟩
      exact ⟨shorter, hsuffix.trans (List.suffix_cons _ _), heq⟩

/-- The directories around a path have the same origin and lead along beginnings of its
steps. -/
theorem mem_outward (h : Written absolute reversed) {directory : Path}
    (hdirectory : directory ∈ outward absolute reversed) :
    directory.isAbsolute = absolute ∧ directory.steps <+: stepsOf reversed := by
  rcases exists_of_mem_outward hdirectory with ⟨shorter, hsuffix, rfl⟩
  rcases steps_ofReversed_dropIdle (h.of_suffix hsuffix) with ⟨habsolute, hsteps⟩
  rw [habsolute, hsteps, stepsOf, stepsOf, List.reverse_prefix]
  exact ⟨rfl, hsuffix.filter _⟩

/-- From the root, every directory around a path leads along fewer steps than those inside
it. -/
theorem pairwise_outward (h : Written true reversed) :
    (outward true reversed).Pairwise
      fun inner outer => outer.steps.length < inner.steps.length := by
  induction reversed with
  | nil => simp [outward, outerPaths]
  | cons segment rest ih =>
    cases hidle : idles segment with
    | true =>
      have hskip : isIdle true rest.isEmpty segment = true := by rw [isIdle_absolute, hidle]
      have hsame : outward true (segment :: rest) = outward true rest := by
        rw [outward, outward, dropIdle, outerPaths, if_pos hskip, if_pos hskip]
      rw [hsame]
      exact ih h.tail
    | false =>
      rw [outward, outerPaths_of_not_isIdle (isIdle_eq_false hidle _ _), List.pairwise_cons]
      refine ⟨fun outer houter => ?_, ih h.tail⟩
      have hlength := (mem_outward h.tail houter).2.length_le
      rw [(steps_ofReversed_dropIdle h).2, stepsOf_cons hidle, List.length_append,
        List.length_singleton]
      omega

theorem written_of_isAbsolute (h : p.isAbsolute = true) : Written true p.segments.reverse := by
  have hne : p ≠ [] := by
    rintro rfl
    cases h
  exact h ▸ written_segments hne

/-- A path from the root and the directories around it start at the root. -/
theorem isAbsolute_of_mem_ancestors (h : p.isAbsolute = true) {directory : Path}
    (hdirectory : directory ∈ p.ancestors) : directory.isAbsolute = true := by
  rcases List.mem_cons.1 hdirectory with rfl | houter
  · exact h
  · rw [h] at houter
    exact (mem_outward (written_of_isAbsolute h) (List.mem_cons_of_mem _ houter)).1

/-- From the root, no two of a path and the directories around it lead along the same steps. -/
theorem pairwise_ancestors (h : p.isAbsolute = true) :
    p.ancestors.Pairwise fun inner outer => outer.steps.length < inner.steps.length := by
  have hwritten := written_of_isAbsolute h
  have hsteps : (ofReversed true (dropIdle true p.segments.reverse)).steps = p.steps := by
    rw [(steps_ofReversed_dropIdle hwritten).2, steps_eq]
  have houtward := pairwise_outward hwritten
  rw [outward, List.pairwise_cons, hsteps] at houtward
  rw [ancestors, h]
  exact List.pairwise_cons.2 houtward

/-- Fewer segments give a prefix of the path. -/
theorem ofReversed_isPrefix (absolute : Bool) {shorter : List Text} (h : shorter <:+ reversed) :
    ofReversed absolute shorter <+: ofReversed absolute reversed := by
  obtain ⟨more, rfl⟩ := h
  rw [ofReversed, ofReversed, List.reverse_append, List.prefix_append_right_inj]
  exact Text.intercalate_isPrefix _ _ _

/-- The directories around a path are beginnings of its text. -/
theorem prefix_of_mem_outward {directory : Path} (h : directory ∈ outward absolute reversed) :
    directory <+: ofReversed absolute reversed := by
  rcases exists_of_mem_outward h with ⟨shorter, hsuffix, rfl⟩
  exact ofReversed_isPrefix absolute ((dropIdle_suffix absolute shorter).trans hsuffix)

/-- A directory around a path is a prefix of it. -/
theorem prefix_of_mem_ancestors {directory : Path} (h : directory ∈ p.ancestors) :
    directory <+: p := by
  rcases List.mem_cons.1 h with rfl | houter
  · exact List.prefix_rfl
  · have hfront := prefix_of_mem_outward (List.mem_cons_of_mem _ houter)
    rwa [ofReversed_segments] at hfront

/-- Around a path that ends in a step is the directory with the segments before it. -/
theorem parent?_of_step (hsegments : p.segments.reverse = segment :: reversed)
    (hstep : idles segment = false) :
    p.parent? = some (ofReversed p.isAbsolute (dropIdle p.isAbsolute reversed)) := by
  rw [parent?, hsegments, outerPaths_of_not_isIdle (isIdle_eq_false hstep _ _)]
  rfl

end Path

end PlainPage
