import TypedNames.Pattern.Chart

/-!
# The ways of a pattern

All ways in which a pattern can match at the start of a text, the preferred ones first: what it
takes and what it leaves. This says what charts compute: from the outcomes of what follows, a
chart picks the first way after which what follows succeeds.

## Main definitions

* `Pattern.ways` — the ways of a pattern in order of preference.
* `Chart.ofFunction` — the chart of a function of the tails of a text.
* `Chart.through` — the outcome of the first way after which what follows succeeds.

## Main results

* `Pattern.mem_ways_iff` — the ways are the splits of the text into a part that the pattern
  matches in full and a rest.
* `Pattern.chart_ofFunction` — a chart picks the first way after which what follows succeeds.
-/

set_option autoImplicit false

namespace TypedNames

namespace Pattern

/-- The way that takes one accepted character, if there is one. -/
def waysOne (accepts : Char → Bool) : List Char → List (List Char × List Char)
  | [] => []
  | c :: rest => if accepts c then [([c], rest)] else []

/-- The ways that take accepted characters, more of them first. -/
def waysMany (accepts : Char → Bool) : List Char → List (List Char × List Char)
  | [] => [([], [])]
  | c :: rest =>
    if accepts c then (waysMany accepts rest).map (fun w => (c :: w.1, w.2)) ++ [([], c :: rest)]
    else [([], c :: rest)]

/-- The ways of one thing and then another. -/
def waysThen (first second : List Char → List (List Char × List Char)) (text : List Char) :
    List (List Char × List Char) :=
  (first text).flatMap fun w => (second w.2).map fun v => (w.1 ++ v.1, v.2)

/-- The ways of the same thing a number of times, and then another. -/
def waysRepeat (first second : List Char → List (List Char × List Char)) :
    Nat → List Char → List (List Char × List Char)
  | 0 => second
  | n + 1 => waysThen first (waysRepeat first second n)

/-- The ways of a literal text. -/
def waysLiteral : List Char → List Char → List (List Char × List Char)
  | [], text => [([], text)]
  | c :: rest, text => waysThen (waysOne (· == c)) (waysLiteral rest) text

/-- The way that takes nothing. -/
def waysNone (text : List Char) : List (List Char × List Char) :=
  [([], text)]

/-- The ways of a pattern at the start of a text, in order of preference. -/
def ways : Pattern → List Char → List (List Char × List Char)
  | .one k, text => waysOne k.has text
  | .literal s, text => waysLiteral s text
  | .optional k, text => waysOne k.has text ++ [([], text)]
  | .exactly k n, text => waysRepeat (waysOne k.has) waysNone n text
  | .atLeast k n, text => waysRepeat (waysOne k.has) (waysMany k.has) n text
  | .oneOrMore k, text => waysThen (waysOne k.has) (waysMany k.has) text
  | .seq p q, text => waysThen p.ways q.ways text
  | .alt p q, text => p.ways text ++ q.ways text
  | .group p, text => p.ways text

/-! ## Ways and matches -/

/-- One accepted character is taken. -/
theorem mem_waysOne {accepts : Char → Bool} {text u r : List Char} :
    (u, r) ∈ waysOne accepts text ↔ text = u ++ r ∧ ∃ c, u = [c] ∧ accepts c = true := by
  cases text with
  | nil =>
    simp only [waysOne, List.not_mem_nil, false_iff, not_and, not_exists]
    rintro h c rfl
    simp at h
  | cons c rest =>
    rw [waysOne]
    split
    · next h =>
      simp only [List.mem_singleton, Prod.mk.injEq]
      constructor
      · rintro ⟨rfl, rfl⟩
        exact ⟨rfl, c, rfl, h⟩
      · rintro ⟨h, d, rfl, -⟩
        simp only [List.cons_append, List.nil_append, List.cons.injEq] at h
        exact ⟨by rw [h.1], h.2.symm⟩
    · next h =>
      simp only [List.not_mem_nil, false_iff, not_and, not_exists]
      rintro e d rfl hd
      simp only [List.cons_append, List.nil_append, List.cons.injEq] at e
      exact h (e.1 ▸ hd)

/-- Any number of accepted characters is taken. -/
theorem mem_waysMany {accepts : Char → Bool} {text u r : List Char} :
    (u, r) ∈ waysMany accepts text ↔ text = u ++ r ∧ ∀ c ∈ u, accepts c = true := by
  induction text generalizing u r with
  | nil =>
    simp only [waysMany, List.mem_singleton, Prod.mk.injEq]
    constructor
    · rintro ⟨rfl, rfl⟩; simp
    · rintro ⟨h, -⟩; simpa using h.symm
  | cons c rest ih =>
    rw [waysMany]
    cases u with
    | nil =>
      have key : (([], r) : List Char × List Char) ∈ [(([] : List Char), c :: rest)] ↔
          c :: rest = [] ++ r ∧ ∀ d ∈ ([] : List Char), accepts d = true := by
        simp only [List.mem_singleton, Prod.mk.injEq, true_and, List.nil_append,
          List.not_mem_nil, false_implies, implies_true, and_true]
        exact eq_comm
      split
      · rw [List.mem_append, key]
        simp
      · exact key
    | cons d u =>
      split
      · next h =>
        simp only [List.mem_append, List.mem_map, Prod.mk.injEq, List.cons.injEq, Prod.exists,
          List.mem_singleton, reduceCtorEq, false_and, or_false]
        constructor
        · rintro ⟨v, s, hv, ⟨rfl, rfl⟩, rfl⟩
          obtain ⟨rfl, hall⟩ := ih.1 hv
          exact ⟨rfl, by simpa [h] using hall⟩
        · rintro ⟨e, hall⟩
          simp only [List.cons_append, List.cons.injEq] at e
          obtain ⟨rfl, e⟩ := e
          exact ⟨u, r, ih.2 ⟨e, fun x hx => hall x (List.mem_cons_of_mem _ hx)⟩, ⟨rfl, rfl⟩, rfl⟩
      · next h =>
        simp only [List.mem_singleton, Prod.mk.injEq, reduceCtorEq, false_and, false_iff, not_and]
        intro e hall
        simp only [List.cons_append, List.cons.injEq] at e
        exact h (e.1 ▸ hall d List.mem_cons_self)

/-- What the one takes and then what the other takes is taken. -/
theorem mem_waysThen {first second : List Char → List (List Char × List Char)}
    {text w r : List Char} :
    (w, r) ∈ waysThen first second text ↔
      ∃ u v s, w = u ++ v ∧ (u, s) ∈ first text ∧ (v, r) ∈ second s := by
  simp only [waysThen, List.mem_flatMap, List.mem_map, Prod.exists, Prod.mk.injEq]
  constructor
  · rintro ⟨u, s, hu, v, r', hv, rfl, rfl⟩
    exact ⟨u, v, s, rfl, hu, hv⟩
  · rintro ⟨u, v, s, rfl, hu, hv⟩
    exact ⟨u, s, hu, v, r, hv, rfl, rfl⟩

/-- A literal text is taken. -/
theorem mem_waysLiteral {literal text u r : List Char} :
    (u, r) ∈ waysLiteral literal text ↔ text = u ++ r ∧ u = literal := by
  induction literal generalizing text u r with
  | nil =>
    simp only [waysLiteral, List.mem_singleton, Prod.mk.injEq]
    constructor
    · rintro ⟨rfl, rfl⟩; simp
    · rintro ⟨rfl, rfl⟩; simp
  | cons c rest ih =>
    rw [waysLiteral, mem_waysThen]
    constructor
    · rintro ⟨u', v, s, rfl, hu, hv⟩
      obtain ⟨rfl, d, rfl, hd⟩ := mem_waysOne.1 hu
      obtain ⟨rfl, rfl⟩ := ih.1 hv
      simp only [beq_iff_eq] at hd
      subst hd
      exact ⟨by simp, rfl⟩
    · rintro ⟨rfl, rfl⟩
      exact ⟨[c], rest, rest ++ r, rfl, mem_waysOne.2 ⟨rfl, c, rfl, by simp⟩, ih.2 ⟨rfl, rfl⟩⟩

/-- Accepted characters are taken, so many at first and then what else is taken. -/
theorem mem_waysRepeat {accepts : Char → Bool} {second : List Char → List (List Char × List Char)}
    {n : Nat} {text w r : List Char} :
    (w, r) ∈ waysRepeat (waysOne accepts) second n text ↔
      ∃ u v s, w = u ++ v ∧ text = u ++ s ∧ u.length = n ∧ (∀ c ∈ u, accepts c = true) ∧
        (v, r) ∈ second s := by
  induction n generalizing text w r with
  | zero =>
    rw [waysRepeat]
    constructor
    · intro h
      exact ⟨[], w, text, rfl, rfl, rfl, by simp, h⟩
    · rintro ⟨u, v, s, rfl, rfl, hu, -, h⟩
      rw [List.length_eq_zero_iff] at hu
      subst hu
      exact h
  | succ n ih =>
    rw [waysRepeat, mem_waysThen]
    constructor
    · rintro ⟨u, v, s, rfl, hu, hv⟩
      obtain ⟨rfl, c, rfl, hc⟩ := mem_waysOne.1 hu
      obtain ⟨u', v', s', rfl, rfl, hlen, hall, h⟩ := ih.1 hv
      exact ⟨c :: u', v', s', by simp, by simp, by simp [hlen], by simpa [hc] using hall, h⟩
    · rintro ⟨u, v, s, rfl, rfl, hlen, hall, h⟩
      cases u with
      | nil => simp at hlen
      | cons c u =>
        simp only [List.length_cons, Nat.add_right_cancel_iff] at hlen
        have hc := hall c List.mem_cons_self
        exact ⟨[c], u ++ v, u ++ s, by simp, mem_waysOne.2 ⟨by simp, c, rfl, hc⟩,
          ih.2 ⟨u, v, s, rfl, rfl, hlen, fun d hd => hall d (List.mem_cons_of_mem _ hd), h⟩⟩

/-- The ways of a pattern are the splits of the text into a part that the pattern matches in full
and a rest. -/
theorem mem_ways_iff {p : Pattern} {text u r : List Char} :
    (u, r) ∈ p.ways text ↔ text = u ++ r ∧ p.Matches u := by
  induction p generalizing text u r with
  | one k => exact mem_waysOne
  | literal s => exact mem_waysLiteral
  | optional k =>
    simp only [ways, Matches, List.mem_append, mem_waysOne, List.mem_singleton, Prod.mk.injEq]
    constructor
    · rintro (⟨h, hc⟩ | ⟨rfl, rfl⟩)
      · exact ⟨h, .inr hc⟩
      · exact ⟨rfl, .inl rfl⟩
    · rintro ⟨rfl, rfl | hc⟩
      · exact .inr ⟨rfl, rfl⟩
      · exact .inl ⟨rfl, hc⟩
  | exactly k n =>
    simp only [ways, Matches, mem_waysRepeat, waysNone, List.mem_singleton, Prod.mk.injEq]
    constructor
    · rintro ⟨u, v, s, rfl, rfl, hlen, hall, rfl, rfl⟩
      exact ⟨by simp, by simpa using hlen, by simpa using hall⟩
    · rintro ⟨rfl, hlen, hall⟩
      exact ⟨u, [], r, by simp, rfl, hlen, hall, rfl, rfl⟩
  | atLeast k n =>
    simp only [ways, Matches, mem_waysRepeat, mem_waysMany]
    constructor
    · rintro ⟨u, v, s, rfl, rfl, hlen, hall, rfl, hv⟩
      refine ⟨by simp, by simp [hlen], ?_⟩
      intro c hc
      rcases List.mem_append.1 hc with h | h
      · exact hall c h
      · exact hv c h
    · rintro ⟨rfl, hlen, hall⟩
      exact ⟨u.take n, u.drop n, u.drop n ++ r, by simp, by rw [← List.append_assoc]; simp,
        by simp [hlen], fun c hc => hall c (List.mem_of_mem_take hc), rfl,
        fun c hc => hall c (List.mem_of_mem_drop hc)⟩
  | oneOrMore k =>
    simp only [ways, Matches, mem_waysThen, mem_waysOne, mem_waysMany]
    constructor
    · rintro ⟨u, v, s, rfl, ⟨rfl, c, rfl, hc⟩, rfl, hv⟩
      exact ⟨by simp, by simp, by simpa [hc] using hv⟩
    · rintro ⟨rfl, hlen, hall⟩
      cases u with
      | nil => simp at hlen
      | cons c u =>
        exact ⟨[c], u, u ++ r, rfl, ⟨rfl, c, rfl, hall c List.mem_cons_self⟩, rfl,
          fun d hd => hall d (List.mem_cons_of_mem _ hd)⟩
  | seq p q hp hq =>
    simp only [ways, Matches, mem_waysThen]
    constructor
    · rintro ⟨u, v, s, rfl, hu, hv⟩
      obtain ⟨rfl, hp'⟩ := hp.1 hu
      obtain ⟨rfl, hq'⟩ := hq.1 hv
      exact ⟨by simp, u, v, rfl, hp', hq'⟩
    · rintro ⟨rfl, u, v, rfl, hu, hv⟩
      exact ⟨u, v, v ++ r, rfl, hp.2 ⟨by simp, hu⟩, hq.2 ⟨rfl, hv⟩⟩
  | alt p q hp hq =>
    simp only [ways, Matches, List.mem_append, hp, hq]
    constructor
    · rintro (⟨h, hm⟩ | ⟨h, hm⟩)
      · exact ⟨h, .inl hm⟩
      · exact ⟨h, .inr hm⟩
    · rintro ⟨h, hm | hm⟩
      · exact .inl ⟨h, hm⟩
      · exact .inr ⟨h, hm⟩
  | group p hp => exact hp

end Pattern

/-! ## Charts and ways -/

namespace Chart

variable {α : Type}

/-- The chart of a function of the tails of a text. -/
def ofFunction (f : List Char → Option (List Char × α)) : List Char → Chart α
  | [] => [f []]
  | c :: rest => f (c :: rest) :: ofFunction f rest

/-- The outcome of the first way after which what follows succeeds. -/
def through (ways : List Char → List (List Char × List Char))
    (f : List Char → Option (List Char × α)) (text : List Char) : Option (List Char × α) :=
  (ways text).findSome? fun w => (f w.2).map fun found => (w.1 ++ found.1, found.2)

/-- The first outcome of a chart is that of the whole text. -/
theorem headD_ofFunction (f : List Char → Option (List Char × α)) (text : List Char) :
    (ofFunction f text).headD none = f text := by
  cases text <;> rfl

/-- A way with a character in front takes what the way takes and the character. -/
theorem findSome?_map_cons (c : Char) (ways : List (List Char × List Char))
    (f : List Char → Option (List Char × α)) :
    (ways.map fun w => (c :: w.1, w.2)).findSome?
        (fun w => (f w.2).map fun found => (w.1 ++ found.1, found.2)) =
      grow c (ways.findSome? fun w => (f w.2).map fun found => (w.1 ++ found.1, found.2)) := by
  induction ways with
  | nil => rfl
  | cons w rest ih =>
    simp only [List.map_cons, List.findSome?_cons]
    cases f w.2 with
    | none => exact ih
    | some found => rfl

/-- The first way of either list. -/
theorem through_append (v w : List Char → List (List Char × List Char))
    (f : List Char → Option (List Char × α)) (text : List Char) :
    through (fun s => v s ++ w s) f text = (through v f text).or (through w f text) := by
  simp [through, List.findSome?_append]

/-- The first way of one thing after which there is a first way of another. -/
theorem through_waysThen (first second : List Char → List (List Char × List Char))
    (f : List Char → Option (List Char × α)) :
    through (Pattern.waysThen first second) f = through first (through second f) := by
  funext text
  unfold through Pattern.waysThen
  induction first text with
  | nil => rfl
  | cons w rest ih =>
    rw [List.flatMap_cons, List.findSome?_append, ih, List.findSome?_cons]
    have head : ((second w.2).map fun v => (w.1 ++ v.1, v.2)).findSome?
          (fun w => (f w.2).map fun found => (w.1 ++ found.1, found.2)) =
        ((second w.2).findSome? fun v => (f v.2).map fun found => (v.1 ++ found.1, found.2)).map
          fun found => (w.1 ++ found.1, found.2) := by
      induction second w.2 with
      | nil => rfl
      | cons v more ihv =>
        simp only [List.map_cons, List.findSome?_cons]
        cases f v.2 with
        | none => exact ihv
        | some found => simp [List.append_assoc]
    rw [head]
    cases (second w.2).findSome? fun v => (f v.2).map fun found => (v.1 ++ found.1, found.2) <;> rfl

/-- One chart or else another. -/
theorem orElse_ofFunction (f g : List Char → Option (List Char × α)) (text : List Char) :
    orElse (ofFunction f text) (ofFunction g text) =
      ofFunction (fun s => (f s).or (g s)) text := by
  induction text with
  | nil => rfl
  | cons c rest ih =>
    rw [orElse] at ih ⊢
    simp only [ofFunction, List.zipWith_cons_cons, ih]

/-- A chart that starts with a character picks the way that takes it. -/
theorem one_ofFunction (accepts : Char → Bool) (f : List Char → Option (List Char × α))
    (text : List Char) :
    one accepts text (ofFunction f text) =
      ofFunction (through (Pattern.waysOne accepts) f) text := by
  induction text with
  | nil => rfl
  | cons c rest ih =>
    have head : through (Pattern.waysOne accepts) f (c :: rest) =
        if accepts c then grow c (f rest) else none := by
      rw [through, Pattern.waysOne]
      by_cases h : accepts c = true
      · rw [if_pos h, if_pos h, List.findSome?_cons, List.findSome?_nil]
        cases f rest <;> rfl
      · rw [if_neg h, if_neg h, List.findSome?_nil]
    rw [ofFunction, ofFunction, head, ← ih, one, one]
    cases rest <;> rfl

/-- A chart that starts with characters picks the first of the ways that take them. -/
theorem many_ofFunction (accepts : Char → Bool) (f : List Char → Option (List Char × α))
    (text : List Char) :
    many accepts text (ofFunction f text) =
      ofFunction (through (Pattern.waysMany accepts) f) text := by
  induction text with
  | nil => cases h : f [] <;> simp [many, ofFunction, through, Pattern.waysMany, h]
  | cons c rest ih =>
    have here (g : Option (List Char × α)) : g.map (fun found => ([] ++ found.1, found.2)) = g := by
      cases g <;> rfl
    rw [ofFunction, ofFunction, many, ih, headD_ofFunction]
    congr 1
    unfold through
    rw [Pattern.waysMany]
    split
    · rw [List.findSome?_append, findSome?_map_cons, List.findSome?_cons, List.findSome?_nil, here]
      cases f (c :: rest) <;> rfl
    · rw [List.findSome?_cons, List.findSome?_nil, here]
      cases f (c :: rest) <;> rfl

/-- A chart that starts with a literal text picks the way that takes it. -/
theorem literal_ofFunction (s : List Char) (f : List Char → Option (List Char × α))
    (text : List Char) :
    literal text (ofFunction f text) s = ofFunction (through (Pattern.waysLiteral s) f) text := by
  induction s with
  | nil =>
    rw [literal]
    congr 1
    funext t
    cases h : f t <;> simp [through, Pattern.waysLiteral, h]
  | cons c rest ih =>
    rw [literal, ih, one_ofFunction, ← through_waysThen]
    rfl

/-- A chart that repeats a step picks the first of the ways that repeat it. -/
theorem repeat_ofFunction (accepts : Char → Bool) (n : Nat)
    (second : List Char → List (List Char × List Char)) (f : List Char → Option (List Char × α))
    (text : List Char) :
    Nat.repeat (one accepts text) n (ofFunction (through second f) text) =
      ofFunction (through (Pattern.waysRepeat (Pattern.waysOne accepts) second n) f) text := by
  induction n with
  | zero => rfl
  | succ n ih =>
    rw [Nat.repeat, ih, one_ofFunction, ← through_waysThen]
    rfl

end Chart

/-- A chart picks the first way after which what follows succeeds. -/
theorem Pattern.chart_ofFunction {α : Type} (p : Pattern) (f : List Char → Option (List Char × α))
    (text : List Char) :
    p.chart text (Chart.ofFunction f text) = Chart.ofFunction (Chart.through p.ways f) text := by
  have none_through (g : List Char → Option (List Char × α)) :
      Chart.through Pattern.waysNone g = g := by
    funext t
    cases h : g t <;> simp [Chart.through, Pattern.waysNone, h]
  induction p generalizing f with
  | one k => exact Chart.one_ofFunction k.has f text
  | literal s => exact Chart.literal_ofFunction s f text
  | optional k =>
    rw [Pattern.chart, Chart.one_ofFunction, Chart.orElse_ofFunction]
    congr 1
    funext t
    rw [← congrFun (none_through f) t]
    exact (Chart.through_append _ _ _ _).symm
  | exactly k n =>
    rw [Pattern.chart, ← congrArg (Chart.ofFunction · text) (none_through f),
      Chart.repeat_ofFunction]
    rfl
  | atLeast k n =>
    rw [Pattern.chart, Chart.many_ofFunction, Chart.repeat_ofFunction]
    rfl
  | oneOrMore k =>
    rw [Pattern.chart, Chart.many_ofFunction, Chart.one_ofFunction, ← Chart.through_waysThen]
    rfl
  | seq p q hp hq =>
    rw [Pattern.chart, hq, hp, ← Chart.through_waysThen]
    rfl
  | alt p q hp hq =>
    rw [Pattern.chart, hp, hq, Chart.orElse_ofFunction]
    congr 1
    funext t
    exact (Chart.through_append _ _ _ _).symm
  | group p hp => exact hp f

end TypedNames
