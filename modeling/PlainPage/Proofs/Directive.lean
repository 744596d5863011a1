import PlainPage.Proofs.Plugin.Invocation
import PlainPage.Proofs.Text.Lowering

/-!
# The grammar of directive lines

A directive is read from the words of the lowered text after the `@`.  The inductive `Reads`
lists the forms that these words can have.  What is read is well formed: it is made of words
that lowering leaves as they are, and a command does not have a reserved name.  Every well
formed directive is also read from some line, and its own line is one.

Main results:

- Theorem `Directive.ofWords_eq_ok_iff` says which words are read as which directive.
- Theorem `Directive.ofBody_eq` says that the words can as well be lowered one by one.
- Theorem `Directive.Reads.wellFormed` says that tokens are read as well formed directives,
  and `Directive.WellFormed.exists_reads` that every one of these is read from its own line.
- Theorem `Directive.ofLine?_grammar` says which lines are directives, which directives they
  give, and that the line of a directive gives it back.
-/

namespace PlainPage

/-! ## Tokens -/

namespace Text

/-- A word that lowering leaves as it is. -/
def IsToken (t : Text) : Prop :=
  IsWord t ∧ lower t = t

/-- The words of a lowered text are tokens. -/
theorem isToken_of_mem_words {t word : Text} (h : word ∈ words (lower t)) : IsToken word := by
  refine ⟨isWord_of_mem_words h, lower_of_plain fun c hc => ?_⟩
  exact isLowered_of_mem_lower (mem_of_mem_words h hc)

/-- Lowering leaves tokens with spaces between them as they are. -/
theorem lower_intercalate {tokens : List Text} (h : ∀ token ∈ tokens, IsToken token) :
    lower (List.intercalate [' '] tokens) = List.intercalate [' '] tokens := by
  apply lower_of_plain
  intro c hc
  rcases mem_intercalate hc with hspace | ⟨token, htoken, hmem⟩
  · rw [List.mem_singleton.1 hspace]
    exact (of_isWhite (by decide)).1
  · rw [← (h token htoken).2] at hmem
    exact isLowered_of_mem_lower hmem

/-- There is no line break among tokens with spaces between them. -/
theorem not_mem_intercalate_lineBreak {tokens : List Text} (h : ∀ token ∈ tokens, IsToken token) :
    '\n' ∉ List.intercalate [' '] tokens := by
  intro hmem
  rcases mem_intercalate hmem with hspace | ⟨token, htoken, hbreak⟩
  · exact absurd hspace (by decide)
  · exact absurd ((h token htoken).1.2 '\n' hbreak) (by decide)

/-- The first visible character of a text. -/
theorem head?_dropWhile_isWhite (t : Text) :
    (t.dropWhile isWhite).head? = t.find? (!isWhite ·) := by
  induction t with
  | nil => rfl
  | cons c rest ih =>
    cases hc : isWhite c with
    | true => simpa [hc] using ih
    | false => simp [hc]

end Text

namespace Directive

/-! ## What words are read as -/

/-- The forms of a directive: the words on the left are read as the directive on the right.
Words that a directive has no use for are left over. -/
inductive Reads : List Text → Directive → Prop
  | openBlock {head filter : Text} {args : List Text} (h : head ∈ openWords) :
      Reads (head :: filter :: args) (openBlock filter args)
  | closeBlock {head : Text} {words : List Text} (h : head ∈ closeWords) :
      Reads (head :: words) (closeBlock words.head?)
  | set {name first : Text} {rest : List Text} :
      Reads (setWord :: name :: first :: rest) (set name (List.intercalate [' '] (first :: rest)))
  | unset {name : Text} {rest : List Text} : Reads (unsetWord :: name :: rest) (unset name)
  | enable {plugin : Text} {rest : List Text} :
      Reads (pluginWord :: plugin :: rest) (enable plugin)
  | run {command : Text} {args : List Text} (h : command ∉ reservedWords) :
      Reads (command :: args) (run command args)

/-- Words are read as a directive when they have one of its forms. -/
theorem ofWords_eq_ok_iff {words : List Text} {d : Directive} :
    ofWords words = .ok d ↔ Reads words d := by
  constructor
  · fun_cases ofWords words with
    | case1 =>
      intro h
      cases h
    | case2 head words hopen =>
      intro h
      rcases bind_eq_ok_iff.1 h with ⟨⟨filter, args⟩, hfilter, hdone⟩
      cases hdone
      rw [eq_cons_of_takeWord hfilter]
      exact .openBlock hopen
    | case3 head words _ hclose =>
      intro h
      cases h
      exact .closeBlock hclose
    | case4 words =>
      intro h
      rcases bind_eq_ok_iff.1 h with ⟨⟨name, values⟩, hname, hvalues⟩
      rcases bind_eq_ok_iff.1 hvalues with ⟨⟨first, rest⟩, hfirst, hdone⟩
      cases hdone
      rw [eq_cons_of_takeWord hname, eq_cons_of_takeWord hfirst]
      exact .set
    | case5 words =>
      intro h
      rcases bind_eq_ok_iff.1 h with ⟨⟨name, rest⟩, hname, hdone⟩
      cases hdone
      rw [eq_cons_of_takeWord hname]
      exact .unset
    | case6 words =>
      intro h
      rcases bind_eq_ok_iff.1 h with ⟨⟨plugin, rest⟩, hplugin, hdone⟩
      cases hdone
      rw [eq_cons_of_takeWord hplugin]
      exact .enable
    | case7 command args hopen hclose hset hunset hplugin =>
      intro h
      cases h
      exact .run (by simp [reservedWords, hopen, hclose, hset, hunset, hplugin])
  · intro h
    cases h with
    | openBlock h =>
      simp only [openWords, List.mem_cons, List.not_mem_nil, or_false] at h
      rcases h with rfl | rfl <;> rfl
    | closeBlock h =>
      simp only [closeWords, List.mem_cons, List.not_mem_nil, or_false] at h
      rcases h with rfl | rfl <;> rfl
    | set => rfl
    | unset => rfl
    | enable => rfl
    | run h => exact ofWords_of_not_reserved h _

/-- The text after the `@` can as well be cut into words before these are lowered. -/
theorem ofBody_eq (body : Text) : ofBody body = ofWords ((Text.words body).map Text.lower) := by
  rw [ofBody, Text.words_lower]

/-! ## Well formed directives -/

/-- Whether a directive is made of tokens.  The value of a setting is tokens with single
spaces between them, and no command has a reserved name. -/
def WellFormed : Directive → Prop
  | openBlock filter args => Text.IsToken filter ∧ ∀ arg ∈ args, Text.IsToken arg
  | closeBlock filter => ∀ name ∈ filter, Text.IsToken name
  | set name value => Text.IsToken name ∧ ∃ tokens : List Text, tokens ≠ [] ∧
      (∀ token ∈ tokens, Text.IsToken token) ∧ value = List.intercalate [' '] tokens
  | unset name => Text.IsToken name
  | enable plugin => Text.IsToken plugin
  | run command args => Text.IsToken command ∧ command ∉ reservedWords ∧
      ∀ arg ∈ args, Text.IsToken arg

/-- The words that a directive can begin with. -/
def keywords : Directive → List Text
  | openBlock _ _ => openWords
  | closeBlock _ => closeWords
  | set _ _ => [setWord]
  | unset _ => [unsetWord]
  | enable _ => [pluginWord]
  | run command _ => [command]

/-- What stands behind the first word of a directive. -/
def operands : Directive → List Text
  | openBlock filter args => filter :: args
  | closeBlock filter => filter.toList
  | set name value => [name, value]
  | unset name => [name]
  | enable plugin => [plugin]
  | run _ args => args

/-- The line of a directive that begins with the given word. -/
def line (d : Directive) (keyword : Text) : Text :=
  '@' :: List.intercalate [' '] (keyword :: d.operands)

/-- Tokens are read as well formed directives. -/
theorem Reads.wellFormed {words : List Text} {d : Directive} (h : Reads words d)
    (hwords : ∀ word ∈ words, Text.IsToken word) : d.WellFormed := by
  cases h with
  | openBlock =>
    simp only [List.forall_mem_cons] at hwords
    exact hwords.2
  | closeBlock =>
    exact fun name hname => hwords name (List.mem_cons_of_mem _ (List.mem_of_mem_head? hname))
  | set =>
    rw [List.forall_mem_cons, List.forall_mem_cons] at hwords
    exact ⟨hwords.2.1, _, List.cons_ne_nil _ _, hwords.2.2, rfl⟩
  | unset => exact hwords _ (by simp)
  | enable => exact hwords _ (by simp)
  | run h =>
    rw [List.forall_mem_cons] at hwords
    exact ⟨hwords.1, h, hwords.2⟩

/-- Reserved words are tokens. -/
theorem isToken_of_reserved {word : Text} (h : word ∈ reservedWords) : Text.IsToken word := by
  have hall : (reservedWords.all fun word => Text.words (Text.lower word) == [word]) = true := by
    decide +kernel
  have hwords : Text.words (Text.lower word) = [word] := eq_of_beq (List.all_eq_true.1 hall word h)
  exact Text.isToken_of_mem_words (by rw [hwords]; exact List.mem_singleton_self word)

/-- A directive begins with a reserved word, or it is a command and begins with its name. -/
theorem mem_reservedWords_or {d : Directive} {keyword : Text} (h : keyword ∈ d.keywords) :
    keyword ∈ reservedWords ∨ ∃ args, d = run keyword args := by
  cases d with
  | openBlock => exact .inl (List.mem_append_left _ (List.mem_append_left _ h))
  | closeBlock => exact .inl (List.mem_append_left _ (List.mem_append_right _ h))
  | set => exact .inl (List.mem_append_right _ (by simp [List.mem_singleton.1 h]))
  | unset => exact .inl (List.mem_append_right _ (by simp [List.mem_singleton.1 h]))
  | enable => exact .inl (List.mem_append_right _ (by simp [List.mem_singleton.1 h]))
  | run command args =>
    rw [List.mem_singleton.1 h]
    exact .inr ⟨args, rfl⟩

/-- A well formed directive begins with a token. -/
theorem WellFormed.isToken_keyword {d : Directive} (h : d.WellFormed) {keyword : Text}
    (hkeyword : keyword ∈ d.keywords) : Text.IsToken keyword := by
  rcases mem_reservedWords_or hkeyword with hreserved | ⟨args, rfl⟩
  · exact isToken_of_reserved hreserved
  · exact h.1

/-- A well formed directive is read from tokens, and these make up its line. -/
theorem WellFormed.exists_reads {d : Directive} (h : d.WellFormed) {keyword : Text}
    (hkeyword : keyword ∈ d.keywords) :
    ∃ words, Reads words d ∧ (∀ word ∈ words, Text.IsToken word) ∧
      d.line keyword = '@' :: List.intercalate [' '] words := by
  have hfirst := h.isToken_keyword hkeyword
  cases d with
  | openBlock filter args =>
    exact ⟨keyword :: filter :: args, .openBlock hkeyword,
      List.forall_mem_cons.2 ⟨hfirst, List.forall_mem_cons.2 h⟩, rfl⟩
  | closeBlock filter =>
    have hreads : Reads (keyword :: filter.toList) (closeBlock filter.toList.head?) :=
      .closeBlock hkeyword
    rw [Option.head?_toList] at hreads
    have hname : ∀ name ∈ filter.toList, Text.IsToken name :=
      fun name hname => h name (Option.mem_toList.1 hname)
    exact ⟨_, hreads, List.forall_mem_cons.2 ⟨hfirst, hname⟩, rfl⟩
  | set name value =>
    rcases h with ⟨hname, tokens, hne, htokens, rfl⟩
    cases tokens with
    | nil => exact absurd rfl hne
    | cons first rest =>
      rw [List.mem_singleton.1 hkeyword] at hfirst ⊢
      have hline : (Directive.set name (List.intercalate [' '] (first :: rest))).line setWord =
          '@' :: List.intercalate [' '] (setWord :: name :: first :: rest) := by
        rw [line, operands, List.intercalate_cons_cons, List.intercalate_cons_cons,
          List.intercalate_cons_cons, List.intercalate_cons_cons, List.intercalate_singleton]
      exact ⟨_, .set, List.forall_mem_cons.2 ⟨hfirst, List.forall_mem_cons.2 ⟨hname, htokens⟩⟩,
        hline⟩
  | unset name =>
    rw [List.mem_singleton.1 hkeyword] at hfirst ⊢
    exact ⟨[unsetWord, name], .unset, by simpa using ⟨hfirst, h⟩, rfl⟩
  | enable plugin =>
    rw [List.mem_singleton.1 hkeyword] at hfirst ⊢
    exact ⟨[pluginWord, plugin], .enable, by simpa using ⟨hfirst, h⟩, rfl⟩
  | run command args =>
    rw [List.mem_singleton.1 hkeyword]
    exact ⟨command :: args, .run h.2.1, List.forall_mem_cons.2 ⟨h.1, h.2.2⟩, rfl⟩

/-! ## Lines -/

/-- A directive is read from the words of the lowered text after the `@` of its line. -/
theorem ofLine?_eq_some_iff {line : Text} {d : Directive} :
    ofLine? line = some (.ok d) ↔
      ∃ body, afterMarker? line = some body ∧ Reads (Text.words (Text.lower body)) d := by
  rw [ofLine?, Option.map_eq_some_iff]
  simp only [ofBody, ofWords_eq_ok_iff]

/-- What is read from a line is well formed. -/
theorem wellFormed_of_ofLine? {line : Text} {d : Directive}
    (h : ofLine? line = some (.ok d)) : d.WellFormed := by
  rcases ofLine?_eq_some_iff.1 h with ⟨body, -, hreads⟩
  exact hreads.wellFormed fun _ hword => Text.isToken_of_mem_words hword

/-- A well formed directive is read from its line, which is a line without line breaks. -/
theorem WellFormed.ofLine?_line {d : Directive} (h : d.WellFormed) {keyword : Text}
    (hkeyword : keyword ∈ d.keywords) :
    '\n' ∉ d.line keyword ∧ ofLine? (d.line keyword) = some (.ok d) := by
  rcases h.exists_reads hkeyword with ⟨words, hreads, htokens, hline⟩
  have hfree := Text.not_mem_intercalate_lineBreak htokens
  rw [hline]
  constructor
  · rw [List.mem_cons, not_or]
    exact ⟨by decide, hfree⟩
  · rw [ofLine?_cons hfree, ofBody, Text.lower_intercalate htokens,
      Text.words_intercalate fun word hword => (htokens word hword).1, ofWords_eq_ok_iff.2 hreads]

/-- Every directive has a keyword. -/
theorem exists_mem_keywords (d : Directive) : ∃ keyword, keyword ∈ d.keywords := by
  cases d <;> exact ⟨_, List.mem_cons_self⟩

/-- A line without line breaks is a directive when its first visible character is `@`. -/
theorem isSome_ofLine?_iff {line : Text} (h : '\n' ∉ line) :
    (ofLine? line).isSome = true ↔ line.find? (!isWhite ·) = some '@' := by
  rw [ofLine?, Option.isSome_map, Option.isSome_iff_exists, ← Text.head?_dropWhile_isWhite,
    List.head?_eq_some_iff]
  simp only [afterMarker?_eq_some_iff h]

/-- The grammar of directive lines.  A line is a directive when its first visible character
is `@`.  The directives that lines give are those that are well formed, and each of them is
given by its own line, with whichever of its words it begins.  What a line gives, a directive
or an error, depends on nothing but the words of the lowered text after the `@`, and these
have one of the forms of the directive. -/
theorem ofLine?_grammar :
    (∀ line, '\n' ∉ line →
      ((ofLine? line).isSome = true ↔ line.find? (!isWhite ·) = some '@')) ∧
    (∀ d : Directive, (∃ line, '\n' ∉ line ∧ ofLine? line = some (.ok d)) ↔ d.WellFormed) ∧
    (∀ d : Directive, d.WellFormed → ∀ keyword ∈ d.keywords,
      '\n' ∉ d.line keyword ∧ ofLine? (d.line keyword) = some (.ok d)) ∧
    (∀ line other body rest, afterMarker? line = some body → afterMarker? other = some rest →
      Text.words (Text.lower body) = Text.words (Text.lower rest) →
      ofLine? line = ofLine? other) ∧
    ∀ line d, ofLine? line = some (.ok d) ↔
      ∃ body, afterMarker? line = some body ∧ Reads (Text.words (Text.lower body)) d := by
  refine ⟨fun line h => isSome_ofLine?_iff h, fun d => ⟨?_, ?_⟩, fun d h keyword hkeyword =>
    h.ofLine?_line hkeyword, ?_, fun line d => ofLine?_eq_some_iff⟩
  · rintro ⟨line, -, hline⟩
    exact wellFormed_of_ofLine? hline
  · intro h
    rcases exists_mem_keywords d with ⟨keyword, hkeyword⟩
    exact ⟨d.line keyword, h.ofLine?_line hkeyword⟩
  · intro line other body rest hbody hrest hwords
    rw [ofLine?, ofLine?, hbody, hrest, Option.map_some, Option.map_some, ofBody, ofBody, hwords]

/-- A setting is given a value in capitals, with a tab and too many spaces.  The directive has
a line of its own without any of these, and so has the directive of an abbreviation. -/
theorem ofLine?_grammar_capitals :
    let title := set "title".toList "once upon".toList
    let margin := openBlock "margin".toList ["4".toList]
    "  @SET Title  Once\tUpon".toList.find? (!isWhite ·) = some '@' ∧ title.WellFormed ∧
      ofLine? "@set title once upon".toList = some (.ok title) ∧
      ofLine? "@! margin 4".toList = some (.ok margin) ∧
      ofLine? "@begin margin 4".toList = some (.ok margin) := by
  intro title margin
  rcases ofLine?_grammar with ⟨hmarkers, hforms, hlines, -⟩
  have htitle : ofLine? "  @SET Title  Once\tUpon".toList = some (.ok title) := rfl
  have htitled : title.WellFormed := (hforms title).1 ⟨_, by decide, htitle⟩
  have hmargin : ofLine? "@!  MARGIN 4".toList = some (.ok margin) := rfl
  have hmargined : margin.WellFormed := (hforms margin).1 ⟨_, by decide, hmargin⟩
  refine ⟨(hmarkers _ (by decide)).1 (by rw [htitle]; rfl), htitled, ?_, ?_, ?_⟩
  · exact (hlines title htitled setWord (by simp [title, keywords])).2
  · exact (hlines margin hmargined "!".toList (by simp [margin, keywords, openWords])).2
  · exact (hlines margin hmargined "begin".toList (by simp [margin, keywords, openWords])).2

end Directive

end PlainPage
