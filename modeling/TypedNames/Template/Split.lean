import TypedNames.Pattern.Ways
import TypedNames.Template.Name

/-!
# Splits of names

A split of a text is a choice of tokens, one for each field and matched in full by the pattern of
the field, with which the template spells the text. A text is a name of the template exactly when
it has a split, and the tokens that are read are a split.

## Main definitions

* `Template.IsSplit` — the splits of a text.
* `Template.segmentText` — the notation of a field.
* `Template.fieldsOutcome` — what the chart of a row of fields holds.

## Main results

* `Template.pattern_eq` — the notation of the pattern of a template.
* `Template.tokens?_eq` — what the chart of the pattern finds.
* `Template.isSplit_of_tokens?` — the tokens that are read are a split.
* `Template.isSome_tokens?_iff` — there are tokens exactly when there is a split.
-/

set_option autoImplicit false

namespace TypedNames

namespace Template

/-- The tokens split the text: each matches the pattern of its field in full, and with them the
template spells the text. -/
structure IsSplit (t : Template) (text : List Char) (tokens : List (List Char)) : Prop where
  length_eq : tokens.length = t.fields.length
  matchesToken : ∀ pair ∈ t.fields.zip tokens, pair.1.pattern.Matches pair.2
  spell_eq : t.spell tokens = text

/-- A row of fields with tokens, the first one behind the given delimiter. -/
def body : List Char → List Field → List (List Char) → List Char
  | delimiter, f :: rest, token :: tokens =>
    delimiter ++ segment f token ++ body ['_'] rest tokens
  | _, _, _ => []

/-- A row of fields is their segments with an underscore between them. -/
theorem body_eq_intercalate (fields : List Field) (tokens : List (List Char)) :
    body [] fields tokens = ['_'].intercalate (List.zipWith segment fields tokens) := by
  cases fields with
  | nil => rfl
  | cons f rest =>
    cases tokens with
    | nil => rfl
    | cons token tokens =>
      simp only [body, List.nil_append, List.zipWith_cons_cons]
      induction rest generalizing f token tokens with
      | nil => simp [body]
      | cons g more ih =>
        cases tokens with
        | nil => simp [body]
        | cons next tokens =>
          rw [body, List.append_assoc, ih g next tokens, List.zipWith_cons_cons,
            List.intercalate_cons_cons]
          simp

/-! ## The notation of the pattern -/

/-- The notation of one literal text and another. -/
theorem escaped_append (s s' : List Char) : escaped (s ++ s') = escaped s ++ escaped s' := by
  rw [escaped, List.flatMap_append, String.ofList_append]
  rfl

/-- The notation of an underscore. -/
theorem escaped_underscore : escaped ['_'] = "_" := by
  decide

/-- The notation of a field: its name, an underscore and its pattern, which is captured. -/
def segmentText (f : Field) : String :=
  escaped f.name.toList ++ "_(" ++ f.pattern.text ++ ")"

/-- The notation of a row of fields with something in front of it. -/
theorem text_rowPattern_cons (delimiter : List Char) (f : Field) (rest : List Field) :
    (rowPattern delimiter (f :: rest)).text =
      escaped delimiter ++ "_".intercalate ((f :: rest).map segmentText) := by
  have hhead (d : List Char) (g : Field) (more : List Field) :
      (rowPattern d (g :: more)).text =
        escaped d ++ segmentText g ++ (rowPattern ['_'] more).text := by
    rw [rowPattern, Composite.text, Composite.text, Composite.text, Composite.text, segment,
      escaped_append, escaped_append, escaped_underscore, segmentText]
    simp only [String.append_assoc]
    rfl
  induction rest generalizing delimiter f with
  | nil => rw [hhead]; simp [rowPattern, Composite.text]
  | cons g more ih =>
    rw [hhead, ih, escaped_underscore, ← String.toList_inj]
    simp [String.toList_intercalate]

/-- **The notation of the pattern of a template**: the fixed texts literally, and the notations of
its fields with an underscore between them. -/
theorem pattern_eq (t : Template) : t.pattern =
    escaped t.lead.toList ++ "_".intercalate (t.fields.map segmentText) ++
      escaped t.trail.toList := by
  have hrow : (rowPattern [] t.fields).text = "_".intercalate (t.fields.map segmentText) := by
    cases t.fields with
    | nil => rfl
    | cons f rest => rw [text_rowPattern_cons]; rfl
  rw [pattern, namePattern, Composite.text, Composite.text, Composite.text, hrow, Composite.text,
    String.append_assoc]

/-! ## Charts of a template -/

/-- An outcome that has taken nothing yet. -/
def restarted {α : Type} (f : List Char → Option (List Char × α)) (text : List Char) :
    Option (List Char × α) :=
  (f text).map fun found => ([], found.2)

/-- An outcome with what was taken put in front of the tokens that follow. -/
def captured (f : List Char → Option (List Char × List (List Char))) (text : List Char) :
    Option (List Char × List (List Char)) :=
  (f text).map fun found => ([], found.1 :: found.2)

/-- The end of the text. -/
def ended (text : List Char) : Option (List Char × List (List Char)) :=
  if text = [] then some ([], []) else none

/-- What the chart of a row of fields holds, where `after` is what follows them. -/
def fieldsOutcome (after : List Char → Option (List Char × List (List Char))) :
    List Char → List Field → List Char → Option (List Char × List (List Char))
  | _, [] => after
  | delimiter, f :: rest =>
    Chart.through (Pattern.waysLiteral (delimiter ++ segment f []))
      (captured (Chart.through f.pattern.ways (restarted (fieldsOutcome after ['_'] rest))))

/-- A chart that is changed at each place. -/
theorem map_ofFunction {α β : Type} (g : Option (List Char × α) → Option (List Char × β))
    (f : List Char → Option (List Char × α)) (text : List Char) :
    (Chart.ofFunction f text).map g = Chart.ofFunction (fun s => g (f s)) text := by
  induction text with
  | nil => rfl
  | cons c rest ih => rw [Chart.ofFunction, Chart.ofFunction, List.map_cons, ih]

/-- The chart of the end of the text. -/
theorem atEnd_anywhere (text : List Char) :
    (Chart.anywhere [] text).atEnd = Chart.ofFunction ended text := by
  induction text with
  | nil => rfl
  | cons c rest ih =>
    rw [Chart.ofFunction, ← ih]
    simp [Chart.anywhere, Chart.atEnd, ended, List.replicate_succ]

/-- At the start of the text nothing is found but at its first place. -/
theorem findSome?_atStart {α : Type} (chart : Chart α) :
    chart.atStart.findSome? id = chart.headD none := by
  cases chart with
  | nil => rfl
  | cons here after =>
    have hrest : (after.map fun _ => (none : Option (List Char × α))).findSome? id = none := by
      simp
    rw [Chart.atStart, List.findSome?_cons, hrest]
    cases here <;> rfl

/-- What the chart of a row of fields holds. -/
theorem chart_rowPattern (text : List Char)
    (after : List Char → Option (List Char × List (List Char))) (delimiter : List Char)
    (fields : List Field) :
    (rowPattern delimiter fields).chart text (Chart.ofFunction after text) =
      Chart.ofFunction (fieldsOutcome after delimiter fields) text := by
  induction fields generalizing delimiter with
  | nil => rfl
  | cons f rest ih =>
    rw [rowPattern, Composite.chart, Composite.chart, Composite.chart, Composite.chart, ih,
      Chart.restart, map_ofFunction]
    change Chart.literal text (Chart.capture (f.pattern.chart text
      (Chart.ofFunction (restarted (fieldsOutcome after ['_'] rest)) text))) _ = _
    rw [Pattern.chart_ofFunction, Chart.capture, map_ofFunction, Chart.literal_ofFunction]
    rfl

/-- The tokens of a name, as the first split in order of preference. -/
theorem tokens?_eq (t : Template) (text : List Char) :
    t.tokens? text =
      (Chart.through (Pattern.waysLiteral t.lead.toList)
        (fieldsOutcome (Chart.through (Pattern.waysLiteral t.trail.toList) ended) [] t.fields)
        text).map Prod.snd := by
  have hname : (namePattern t.fields t.lead t.trail).chart text
      (Chart.anywhere [] text).atEnd = Chart.ofFunction
        (Chart.through (Pattern.waysLiteral t.lead.toList)
          (fieldsOutcome (Chart.through (Pattern.waysLiteral t.trail.toList) ended) [] t.fields))
        text := by
    rw [namePattern, Composite.chart, Composite.chart, Composite.chart, Composite.chart,
      atEnd_anywhere, Chart.literal_ofFunction, chart_rowPattern, Chart.literal_ofFunction]
  rw [tokens?, Composite.search, matcher, wholePattern, Composite.chart, Composite.chart,
    Composite.chart, Composite.chart, Composite.chart, hname, findSome?_atStart,
    Chart.headD_ofFunction]

/-! ## Outcomes and splits -/

/-- An outcome comes from a way and from the outcome of what follows it. -/
theorem exists_of_through {α : Type} {ways : List Char → List (List Char × List Char)}
    {f : List Char → Option (List Char × α)} {text : List Char} {found : List Char × α}
    (h : Chart.through ways f text = some found) :
    ∃ u r inner, (u, r) ∈ ways text ∧ f r = some inner ∧ found = (u ++ inner.1, inner.2) := by
  obtain ⟨w, hw, hf⟩ := List.exists_of_findSome?_eq_some h
  obtain ⟨inner, hi, rfl⟩ := Option.map_eq_some_iff.1 hf
  exact ⟨w.1, w.2, inner, hw, hi, rfl⟩

/-- If what follows one of the ways succeeds, there is an outcome. -/
theorem isSome_through {α : Type} {ways : List Char → List (List Char × List Char)}
    {f : List Char → Option (List Char × α)} {text u r : List Char} (hw : (u, r) ∈ ways text)
    (hf : (f r).isSome = true) : (Chart.through ways f text).isSome = true := by
  rw [Chart.through, List.findSome?_isSome_iff]
  exact ⟨(u, r), hw, by simpa using hf⟩

/-- An outcome of a row of fields gives tokens for them. -/
theorem exists_of_fieldsOutcome {after : List Char → Option (List Char × List (List Char))}
    {delimiter text : List Char} {fields : List Field} {found : List Char × List (List Char)}
    (h : fieldsOutcome after delimiter fields text = some found) :
    ∃ tokens rest inner, found.2 = tokens ++ inner.2 ∧ after rest = some inner ∧
      text = body delimiter fields tokens ++ rest ∧ tokens.length = fields.length ∧
      ∀ pair ∈ fields.zip tokens, pair.1.pattern.Matches pair.2 := by
  induction fields generalizing delimiter text found with
  | nil => exact ⟨[], text, found, rfl, h, rfl, rfl, by simp⟩
  | cons f fs ih =>
    obtain ⟨u, r, inner, hu, hr, rfl⟩ := exists_of_through h
    obtain ⟨rfl, rfl⟩ := Pattern.mem_waysLiteral.1 hu
    obtain ⟨outer, ho, rfl⟩ := Option.map_eq_some_iff.1 hr
    obtain ⟨token, s, next, ht, hs, rfl⟩ := exists_of_through ho
    obtain ⟨rfl, hm⟩ := Pattern.mem_ways_iff.1 ht
    obtain ⟨last, hl, rfl⟩ := Option.map_eq_some_iff.1 hs
    obtain ⟨tokens, rest, ending, he, ha, rfl, hlen, hall⟩ := ih hl
    refine ⟨token :: tokens, rest, ending, by simp [he], ha, ?_, by simp [hlen], ?_⟩
    · simp [body, segment]
    · intro pair hp
      rcases List.mem_cons.1 (by simpa using hp) with rfl | hp
      · exact hm
      · exact hall pair hp

/-- Tokens for a row of fields, and an outcome of what follows, give an outcome. -/
theorem isSome_fieldsOutcome {after : List Char → Option (List Char × List (List Char))}
    {delimiter rest : List Char} {fields : List Field} {tokens : List (List Char)}
    (hlen : tokens.length = fields.length)
    (hall : ∀ pair ∈ fields.zip tokens, pair.1.pattern.Matches pair.2)
    (ha : (after rest).isSome = true) :
    (fieldsOutcome after delimiter fields (body delimiter fields tokens ++ rest)).isSome =
      true := by
  induction fields generalizing delimiter tokens with
  | nil =>
    rw [List.length_nil, List.length_eq_zero_iff] at hlen
    subst hlen
    exact ha
  | cons f fs ih =>
    cases tokens with
    | nil => simp at hlen
    | cons token tokens =>
      have hm : f.pattern.Matches token := hall (f, token) (by simp)
      have inner := @ih ['_'] tokens (by simpa using hlen)
        (fun pair hp => hall pair (by simp [hp]))
      have hlead : (delimiter ++ segment f [], token ++ (body ['_'] fs tokens ++ rest)) ∈
          Pattern.waysLiteral (delimiter ++ segment f [])
            (body delimiter (f :: fs) (token :: tokens) ++ rest) :=
        Pattern.mem_waysLiteral.2 ⟨by simp [body, segment], rfl⟩
      rw [fieldsOutcome]
      refine isSome_through hlead ?_
      rw [captured, Option.isSome_map]
      refine isSome_through (Pattern.mem_ways_iff.2 ⟨rfl, hm⟩) ?_
      rwa [restarted, Option.isSome_map]

/-- The tokens that are read are a split. -/
theorem isSplit_of_tokens? {t : Template} {text : List Char} {tokens : List (List Char)}
    (h : t.tokens? text = some tokens) : t.IsSplit text tokens := by
  rw [tokens?_eq] at h
  obtain ⟨found, hf, rfl⟩ := Option.map_eq_some_iff.1 h
  obtain ⟨u, r, inner, hu, hr, rfl⟩ := exists_of_through hf
  obtain ⟨rfl, rfl⟩ := Pattern.mem_waysLiteral.1 hu
  obtain ⟨tokens, rest, ending, he, ha, rfl, hlen, hall⟩ := exists_of_fieldsOutcome hr
  obtain ⟨v, s, last, hv, hs, rfl⟩ := exists_of_through ha
  obtain ⟨rfl, rfl⟩ := Pattern.mem_waysLiteral.1 hv
  unfold ended at hs
  split at hs
  · next hnil =>
    simp only [Option.some.injEq] at hs
    subst hs hnil
    simp only [List.append_nil] at he
    simp only [he]
    exact ⟨hlen, hall, by rw [spell, ← body_eq_intercalate]; simp⟩
  · simp at hs

/-- There are tokens exactly when there is a split. -/
theorem isSome_tokens?_iff {t : Template} {text : List Char} :
    (t.tokens? text).isSome = true ↔ ∃ tokens, t.IsSplit text tokens := by
  constructor
  · intro h
    obtain ⟨tokens, ht⟩ := Option.isSome_iff_exists.1 h
    exact ⟨tokens, isSplit_of_tokens? ht⟩
  · rintro ⟨tokens, hlen, hall, rfl⟩
    rw [tokens?_eq, Option.isSome_map, spell, ← body_eq_intercalate, List.append_assoc]
    refine isSome_through (Pattern.mem_waysLiteral.2 ⟨rfl, rfl⟩)
      (isSome_fieldsOutcome hlen hall ?_)
    refine isSome_through (r := []) (Pattern.mem_waysLiteral.2 ⟨by simp, rfl⟩) ?_
    simp [ended]

end Template

end TypedNames
