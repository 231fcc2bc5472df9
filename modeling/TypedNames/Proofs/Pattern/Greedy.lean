import Mathlib.Data.List.Pairwise
import TypedNames.Pattern.Ways
import TypedNames.Proofs.Format.Shapes

/-!
# Longer ways first

The patterns of formats are greedy in a strict sense: of two ways in which such a pattern can match
at the start of a text, the one that takes more comes first. Repetition is greedy by its nature. A
choice of two alternatives and an optional sign are greedy because they exclude each other: which
of them can match is decided by the first character of the text.

## Main definitions

* `Pattern.LongestFirst` — no way comes before one that takes more.

## Main results

* `Format.longestFirst_pattern` — the pattern of a format has its ways in this order.
* `Chart.exists_longest_of_through` — what a chart picks takes at least as much as any other way
  after which what follows succeeds.
-/

set_option autoImplicit false

namespace TypedNames

namespace Pattern

/-- The ways are in decreasing order of length: none comes before one that takes more. -/
def LongestFirst (ways : List Char → List (List Char × List Char)) : Prop :=
  ∀ text, (ways text).Pairwise fun v w => w.1.length ≤ v.1.length

/-! ## Characters and repetition -/

/-- One more character in front of each way does not change their order. -/
theorem pairwise_map_cons (c : Char) {ways : List (List Char × List Char)}
    (h : ways.Pairwise fun v w => w.1.length ≤ v.1.length) :
    (ways.map fun w => (c :: w.1, w.2)).Pairwise fun v w => w.1.length ≤ v.1.length := by
  rw [List.pairwise_map]
  exact h.imp fun hle => Nat.succ_le_succ hle

/-- The ways after one character that has to be accepted. -/
theorem waysThen_waysOne (accepts : Char → Bool)
    (second : List Char → List (List Char × List Char)) (text : List Char) :
    waysThen (waysOne accepts) second text =
      match text with
      | [] => []
      | c :: rest => if accepts c then (second rest).map fun w => (c :: w.1, w.2) else [] := by
  cases text with
  | nil => rfl
  | cons c rest =>
    by_cases h : accepts c = true
    · simp [waysThen, waysOne, h]
    · simp [waysThen, waysOne, h]

/-- Taking one character first keeps the order. -/
theorem longestFirst_waysThen_waysOne (accepts : Char → Bool)
    {second : List Char → List (List Char × List Char)} (h : LongestFirst second) :
    LongestFirst (waysThen (waysOne accepts) second) := by
  intro text
  rw [waysThen_waysOne]
  cases text with
  | nil => exact List.Pairwise.nil
  | cons c rest =>
    dsimp only
    split
    · exact pairwise_map_cons c (h rest)
    · exact List.Pairwise.nil

/-- Taking as many characters as possible is greedy. -/
theorem longestFirst_waysMany (accepts : Char → Bool) : LongestFirst (waysMany accepts) := by
  intro text
  induction text with
  | nil => exact List.pairwise_singleton _ _
  | cons c rest ih =>
    rw [waysMany]
    split
    · refine List.pairwise_append.2 ⟨pairwise_map_cons c ih, List.pairwise_singleton _ _, ?_⟩
      intro v _ w hw
      rw [List.mem_singleton] at hw
      rw [hw]
      exact Nat.zero_le _
    · exact List.pairwise_singleton _ _

/-- Taking a number of characters first keeps the order. -/
theorem longestFirst_waysRepeat (accepts : Char → Bool)
    {second : List Char → List (List Char × List Char)} (h : LongestFirst second) (n : Nat) :
    LongestFirst (waysRepeat (waysOne accepts) second n) := by
  induction n with
  | zero => exact h
  | succ n ih => exact longestFirst_waysThen_waysOne accepts ih

/-- At least so many characters are taken greedily. -/
theorem longestFirst_atLeast (k : CharClass) (n : Nat) :
    LongestFirst (Pattern.atLeast k n).ways :=
  longestFirst_waysRepeat k.has (longestFirst_waysMany k.has) n

/-- One character or more are taken greedily. -/
theorem longestFirst_oneOrMore (k : CharClass) : LongestFirst (Pattern.oneOrMore k).ways :=
  longestFirst_waysThen_waysOne k.has (longestFirst_waysMany k.has)

/-! ## Patterns that settle their length, and choices -/

/-- If all texts that a pattern matches at one place are of one length, there is no order to
keep. -/
theorem longestFirst_of_length_eq {p : Pattern}
    (h : ∀ {u v r s : List Char}, u ++ r = v ++ s → p.Matches u → p.Matches v →
      u.length = v.length) : LongestFirst p.ways := by
  intro text
  apply List.pairwise_of_forall_mem_list
  rintro ⟨u, r⟩ hu ⟨v, s⟩ hv
  obtain ⟨htext, hmu⟩ := mem_ways_iff.1 hu
  obtain ⟨htext', hmv⟩ := mem_ways_iff.1 hv
  exact Nat.le_of_eq (h (htext'.symm.trans htext) hmv hmu)

/-- Of two alternatives that cannot both match at one place, the order is that of the one that
matches. -/
theorem longestFirst_alt {p q : Pattern} (hp : LongestFirst p.ways) (hq : LongestFirst q.ways)
    (h : ∀ text, p.ways text = [] ∨ q.ways text = []) : LongestFirst (Pattern.alt p q).ways := by
  intro text
  show (p.ways text ++ q.ways text).Pairwise _
  rcases h text with e | e
  · rw [e, List.nil_append]
    exact hq text
  · rw [e, List.append_nil]
    exact hp text

/-- An optional character in front of a pattern that cannot start with it keeps the order. -/
theorem longestFirst_optional_append {k : CharClass} {p : Pattern} (hp : LongestFirst p.ways)
    (h : ∀ c rest, k.has c = true → p.ways (c :: rest) = []) :
    LongestFirst (Pattern.optional k ++ p).ways := by
  intro text
  have hways : (Pattern.optional k ++ p).ways text =
      waysThen (waysOne k.has) p.ways text ++ p.ways text := by
    show waysThen (Pattern.optional k).ways p.ways text = _
    simp [waysThen, ways]
  rw [hways, waysThen_waysOne]
  cases text with
  | nil => exact hp []
  | cons c rest =>
    dsimp only
    by_cases hc : k.has c = true
    · rw [if_pos hc, h c rest hc, List.append_nil]
      exact pairwise_map_cons c (hp rest)
    · rw [if_neg hc, List.nil_append]
      exact hp (c :: rest)

/-- A pattern has no ways at a place where no text that it matches starts. -/
theorem ways_eq_nil {p : Pattern} {text : List Char}
    (h : ∀ u r, text = u ++ r → ¬ p.Matches u) : p.ways text = [] := by
  apply List.eq_nil_iff_forall_not_mem.2
  rintro ⟨u, r⟩ hu
  obtain ⟨htext, hm⟩ := mem_ways_iff.1 hu
  exact h u r htext hm

end Pattern

/-! ## The patterns of formats -/

namespace Format

/-- All fixed-point tokens at one place are of one length: the sign and the point settle where the
digits begin and end. -/
theorem length_eq_of_matches_fixed {i d : Nat} {u v r s : List Char} (h : u ++ r = v ++ s)
    (hu : (Format.fixed i d).pattern.Matches u) (hv : (Format.fixed i d).pattern.Matches v) :
    u.length = v.length := by
  obtain ⟨sign, whole, fraction, rfl, hsign, ⟨-, hwhole⟩, hlen, -⟩ := matches_fixed_iff.1 hu
  obtain ⟨sign', whole', fraction', rfl, hsign', ⟨-, hwhole'⟩, hlen', -⟩ := matches_fixed_iff.1 hv
  have hhead {w x : List Char} (hw : IsDigits w) : '-' ∉ (w ++ '.' :: x).head? := by
    cases w with
    | nil => simp
    | cons c w => simpa using ne_of_isDigit (hw c List.mem_cons_self) (by decide)
  simp only [List.append_assoc, List.cons_append] at h
  have e : sign = sign' := sign_eq_of_append_eq hsign hsign' (hhead hwhole) (hhead hwhole') h
  subst e
  obtain ⟨rfl, -, -⟩ :=
    append_cons_inj hwhole hwhole' (by decide) (by decide) (List.append_cancel_left h)
  simp [hlen, hlen']

/-- Only one truth value stands at a place. -/
theorem length_eq_of_matches_bool {u v r s : List Char} (h : u ++ r = v ++ s)
    (hu : Format.bool.pattern.Matches u) (hv : Format.bool.pattern.Matches v) :
    u.length = v.length := by
  rcases matches_bool_iff.1 hu with rfl | rfl <;> rcases matches_bool_iff.1 hv with rfl | rfl
  · rfl
  · exact absurd (List.cons.inj h).1 (by decide)
  · exact absurd (List.cons.inj h).1 (by decide)
  · rfl

/-- No run of at least one digit starts with a minus. -/
theorem ways_digits_eq_nil {n : Nat} (pos : 1 ≤ n) (rest : List Char) :
    (Pattern.atLeast .digit n).ways ('-' :: rest) = [] := by
  apply Pattern.ways_eq_nil
  rintro u r htext ⟨hlen, hdigits⟩
  cases u with
  | nil => exact absurd hlen (by simpa using Nat.pos_iff_ne_zero.1 pos)
  | cons c u =>
    have hc : c.isDigit = true := hdigits c List.mem_cons_self
    exact ne_of_isDigit hc (by decide) (List.cons.inj htext).1.symm

/-- **The pattern of a format takes more characters first.**

**Proof sketch.** Fixed-point numbers, truth values and padded texts settle the length of their
token at any place, and a text without a width is a repetition. An integer starts with a minus or
with a digit, which decides between the sign and none. -/
theorem longestFirst_pattern {format : Format} (range : format.InRange) :
    Pattern.LongestFirst format.pattern.ways := by
  cases format with
  | fixed i d => exact Pattern.longestFirst_of_length_eq length_eq_of_matches_fixed
  | bool => exact Pattern.longestFirst_of_length_eq length_eq_of_matches_bool
  | int width =>
    cases width with
    | none =>
      apply Pattern.longestFirst_optional_append (Pattern.longestFirst_oneOrMore _)
      intro c rest hc
      have e : c = '-' := by simpa [CharClass.has] using hc
      rw [e]
      exact ways_digits_eq_nil (Nat.le_refl 1) rest
    | some n =>
      refine Pattern.longestFirst_alt
        (Pattern.longestFirst_waysThen_waysOne _ (Pattern.longestFirst_atLeast _ _))
        (Pattern.longestFirst_atLeast _ _) ?_
      intro text
      by_cases h : text.head? = some '-'
      · obtain ⟨rest, rfl⟩ := List.head?_eq_some_iff.1 h
        exact .inr (ways_digits_eq_nil range.1 rest)
      · left
        apply Pattern.ways_eq_nil
        rintro _ r rfl ⟨_, v, rfl, ⟨c, rfl, hc⟩, -⟩
        have e : c = '-' := by simpa [CharClass.has] using hc
        subst e
        exact h rfl
  | str padding =>
    rcases padding with _ | ⟨n, side⟩
    · exact Pattern.longestFirst_oneOrMore _
    · exact Pattern.longestFirst_of_length_eq fun _ hu hv => hu.1.trans hv.1.symm

end Format

/-! ## What a chart picks -/

/-- **A chart picks the longest way after which what follows succeeds**, if the ways are in that
order.

**Proof sketch.** All ways in front of the one that is picked fail, so another one after which what
follows succeeds is the same or stands behind it. -/
theorem Chart.exists_longest_of_through {α : Type}
    {ways : List Char → List (List Char × List Char)} (order : Pattern.LongestFirst ways)
    {f : List Char → Option (List Char × α)} {text : List Char} {found : List Char × α}
    (h : Chart.through ways f text = some found) :
    ∃ u r inner, (u, r) ∈ ways text ∧ f r = some inner ∧ found = (u ++ inner.1, inner.2) ∧
      ∀ v s, (v, s) ∈ ways text → (f s).isSome = true → v.length ≤ u.length := by
  obtain ⟨before, ⟨u, r⟩, behind, hways, hpick, hbefore⟩ := List.findSome?_eq_some_iff.1 h
  obtain ⟨inner, hinner, hfound⟩ := Option.map_eq_some_iff.1 hpick
  refine ⟨u, r, inner, by simp [hways], hinner, hfound.symm, ?_⟩
  intro v s hv hs
  have hpairs := order text
  rw [hways] at hpairs hv
  rcases List.mem_append.1 hv with hv | hv
  · have hnone := hbefore (v, s) hv
    rw [Option.map_eq_none_iff] at hnone
    rw [hnone] at hs
    exact Bool.noConfusion hs
  · rcases List.mem_cons.1 hv with e | hv
    · rw [Prod.mk.injEq] at e
      exact Nat.le_of_eq (congrArg List.length e.1)
    · have hafter := (List.pairwise_append.1 hpairs).2.1
      exact List.rel_of_pairwise_cons hafter hv

end TypedNames
