import DrogonStarter.Config.AppConfig
import DrogonStarter.Lib.Binary64
import DrogonStarter.Lib.WholeNumber

/-!
# What the check lets through

A numeric key has a meaning: the number that its whole text writes, inside the range of the
key.  `AppConfig::fromValues` instead reads a number at the start of the text, which
`std::stod` rounds to the nearest `double`, and compares what it has read.  `NumericKey` holds
both sides of one key.

* `exists_config_iff` says when the check lets a configuration through, and
  `returns_of_fromValues` where its fields come from.
* `validation_exact_iff` says for which settings the check decides what the texts mean.
-/

namespace DrogonStarter

open CppNumber

/-! ## Rounding at the upper end of a duration -/

/-- The numbers over an hour that are closer to an hour than to the next `double`. -/
def RoundsToHour (q : ℚ) : Prop := 3600 < q ∧ q ≤ 3600 + 2 ^ (-42 : Int)

theorem represents_hour : binary64.Represents 3600 := ⟨3600, 0, by decide, by decide, by norm_num⟩

theorem nearest_le_hour_iff {q : ℚ} :
    binary64.nearest q ≤ 3600 ↔ q ≤ 3600 ∨ RoundsToHour q := by
  have hnext : binary64.Represents (3600 + 2 ^ (-41 : Int)) :=
    ⟨3600 * 2 ^ 41 + 1, -41, by decide, by decide, by norm_num⟩
  constructor
  · intro hle
    by_contra hover
    obtain ⟨hlow, hrounds⟩ := not_or.1 hover
    have hhigh : 3600 + (2 : ℚ) ^ (-42 : Int) < q :=
      not_le.1 fun h => hrounds ⟨not_le.1 hlow, h⟩
    refine absurd hle (not_le.2 (FloatFormat.lt_nearest hnext ?_ ?_))
    · norm_num
    · norm_num at hhigh ⊢
      linarith
  · rintro (hle | ⟨hlow, hhigh⟩)
    · exact FloatFormat.nearest_le represents_hour hle
    · have hpos : 0 < q := by linarith
      -- The hour is an even multiple of the last place above it.
      have hplace : binary64.place q = -41 := by
        have hlog : Int.log 2 q = 11 := by
          refine le_antisymm ?_ ((Int.zpow_le_iff_le_log (by decide) hpos).1 ?_)
          · refine Int.lt_add_one_iff.1 ((Int.lt_zpow_iff_log_lt (by decide) hpos).1 ?_)
            norm_num at hhigh ⊢
            linarith
          · norm_num
            linarith
        unfold FloatFormat.place
        rw [abs_of_pos hpos, hlog]
        rfl
      have hround : roundAt (-41) q = ((3600 * 2 ^ 41 : Int) : ℚ) * 2 ^ (-41 : Int) := by
        refine roundAt_eq_of_even (by decide) ?_ ?_
        · norm_num
          linarith
        · norm_num at hhigh ⊢
          linarith
      rw [FloatFormat.nearest, hplace, hround]
      norm_num

example : stod "3600.0000000000001" = .ok (.finite 3600) := by decide +kernel

/-- A numeric key: how the check reads its text, and what the text means. -/
structure NumericKey where
  Number : Type
  key : String
  fallback : Number
  field : AppConfig → Number
  /-- The conversion of the standard library. -/
  parse : String → Except ConversionError Number
  /-- The comparisons of the check. -/
  passes : Number → Bool
  /-- The number that the text writes from its first character to its last. -/
  written : String → Option Number
  InRange : Number → Prop
  /-- The value of the type of the field for a number. -/
  nearest : Number → Number
  /-- The type of the field has no value for the number. -/
  Overflows : Number → Prop
  /-- The number is out of range, and its value is not. -/
  Slips : Number → Prop
  parse_written : ∀ {text : String} {a : Number}, written text = some a →
    (Overflows a ∧ parse text = .error .outOfRange) ∨
      (¬ Overflows a ∧ parse text = .ok (nearest a))
  passes_nearest : ∀ {text : String} {a : Number}, written text = some a →
    (passes (nearest a) = true ↔ InRange (nearest a))
  inRange_nearest : ∀ {text : String} {a : Number}, written text = some a → ¬ Overflows a →
    (InRange (nearest a) ↔ InRange a ∨ Slips a)
  slips : ∀ {a : Number}, Slips a → ¬ InRange a ∧ ¬ Overflows a
  fallback_inRange : InRange fallback

namespace NumericKey

/-- A key that holds an integer. -/
def integer (key : String) (fallback : Int) (field : AppConfig → Int) (range : Int → Prop)
    [DecidablePred range] (hfallback : range fallback) : NumericKey where
  Number := Int
  key := key
  fallback := fallback
  field := field
  parse := stoi
  passes n := decide (range n)
  written := wholeInteger
  InRange := range
  nearest n := n
  Overflows n := n < -2147483648 ∨ 2147483647 < n
  Slips _ := False
  parse_written := by
    intro text n hwritten
    rw [stoi_of_wholeInteger hwritten]
    by_cases hout : n < -2147483648 ∨ 2147483647 < n
    · exact Or.inl ⟨hout, if_pos hout⟩
    · exact Or.inr ⟨hout, if_neg hout⟩
  passes_nearest _ := decide_eq_true_iff
  inRange_nearest _ _ := (iff_of_eq (or_false _)).symm
  slips := False.elim
  fallback_inRange := hfallback

/-- A port, a size or a count. -/
def count (key : String) (fallback : Int) (field : AppConfig → Int)
    (hfallback : 1 ≤ fallback ∧ fallback ≤ 65535) : NumericKey :=
  integer key fallback field (fun n => 1 ≤ n ∧ n ≤ 65535) hfallback

/-- A key that holds a number of seconds. -/
def duration (key : String) (fallback : Double) (field : AppConfig → Double)
    (hfallback : 0 < fallback ∧ fallback ≤ .finite 3600) : NumericKey where
  Number := Double
  key := key
  fallback := fallback
  field := field
  parse := stod
  passes d := decide (¬ (d ≤ 0 ∨ .finite 3600 < d))
  written text := (wholeDecimal text).map .finite
  InRange d := 0 < d ∧ d ≤ .finite 3600
  nearest
    | .finite q => .literal q
    | d => d
  Overflows d := ∃ q, d = .finite q ∧ Unrepresentable q
  Slips d := ∃ q, d = .finite q ∧ RoundsToHour q
  parse_written := by
    intro text d hwritten
    obtain ⟨q, hq, rfl⟩ := Option.map_eq_some_iff.1 hwritten
    rw [stod, stodWith_of_wholeDecimal toDouble hq, toDouble]
    by_cases hout : Unrepresentable q
    · exact Or.inl ⟨⟨q, rfl, hout⟩, if_pos hout⟩
    · refine Or.inr ⟨?_, if_neg hout⟩
      rintro ⟨other, hother, hover⟩
      cases hother
      exact hout hover
  passes_nearest := by
    intro text d hwritten
    obtain ⟨q, hq, rfl⟩ := Option.map_eq_some_iff.1 hwritten
    rw [decide_eq_true_iff, not_or]
    simp [Double.literal]
  inRange_nearest := by
    intro text d hwritten hheld
    obtain ⟨q, hq, rfl⟩ := Option.map_eq_some_iff.1 hwritten
    have hpositive : 0 < binary64.nearest q ↔ 0 < q := by
      refine ⟨fun hpos => ?_, fun hpos => nearest_pos hpos fun hover => hheld ⟨q, rfl, hover⟩⟩
      by_contra hle
      exact absurd (FloatFormat.nearest_le FloatFormat.represents_zero (not_lt.1 hle))
        (not_le.2 hpos)
    have hslips : (∃ other, Double.finite q = .finite other ∧ RoundsToHour other) ↔
        RoundsToHour q := by simp
    simp only [hslips, Double.literal, Double.zero_lt_finite, Double.finite_le_finite,
      hpositive, nearest_le_hour_iff]
    constructor
    · rintro ⟨hpos, hle | hrounds⟩
      · exact Or.inl ⟨hpos, hle⟩
      · exact Or.inr hrounds
    · rintro (⟨hpos, hle⟩ | hrounds)
      · exact ⟨hpos, Or.inl hle⟩
      · exact ⟨by linarith [hrounds.1], Or.inr hrounds⟩
  slips := by
    rintro _ ⟨q, rfl, hlow, hhigh⟩
    refine ⟨fun hrange => absurd (Double.finite_le_finite.1 hrange.2) (not_le.2 hlow), ?_⟩
    rintro ⟨other, hother, hover⟩
    cases hother
    refine not_unrepresentable ?_ ?_ hover
    · norm_num
      linarith
    · norm_num at hhigh ⊢
      linarith
  fallback_inRange := hfallback

/-! ## One key -/

variable (k : NumericKey)

/-- The text of the key is missing, empty or a number in its range. -/
def Good (values : Values) : Prop :=
  ∀ text, AppConfig.present values k.key = some text →
    ∃ a, k.written text = some a ∧ k.InRange a

/-- The check lets the text of the key through. -/
def Accepts (values : Values) : Prop :=
  ∀ text, AppConfig.present values k.key = some text →
    ∃ a, k.parse text = .ok a ∧ k.passes a = true

/-- What the check returns for the key. -/
def Returns (values : Values) (a : k.Number) : Prop :=
  (AppConfig.present values k.key = none ∧ a = k.fallback) ∨
    ∃ text, AppConfig.present values k.key = some text ∧ k.parse text = .ok a ∧
      k.passes a = true

/-- The field has the value of the number that is written, or the default, and it is in range.
What counts as the value of a number is `stored`. -/
def Exact (stored : k.Number → k.Number) (values : Values) (config : AppConfig) : Prop :=
  (match AppConfig.present values k.key with
    | none => some k.fallback
    | some text => (k.written text).map stored) = some (k.field config) ∧
    k.InRange (k.field config)

/-- The text is not a number, but what it starts with passes, or it is a number that only
rounding brings into the range. -/
def Deceives (values : Values) : Prop :=
  ∃ text, AppConfig.present values k.key = some text ∧
    ((k.written text = none ∧ ∃ a, k.parse text = .ok a ∧ k.passes a = true) ∨
      ∃ a, k.written text = some a ∧ k.Slips a)

/-- The text is a number in range for which the type of the field has no value. -/
def Loses (values : Values) : Prop :=
  ∃ text a, AppConfig.present values k.key = some text ∧ k.written text = some a ∧
    k.InRange a ∧ k.Overflows a

/-- The text is a number in range for which the type of the field has only a value near it. -/
def Rounds (values : Values) : Prop :=
  ∃ text a, AppConfig.present values k.key = some text ∧ k.written text = some a ∧
    k.InRange a ∧ ¬ k.Overflows a ∧ k.nearest a ≠ a

/-- The text is a number out of range that stays there, or it is none and what it starts with
does not pass. -/
def Refused (values : Values) : Prop :=
  ∃ text, AppConfig.present values k.key = some text ∧
    ((k.written text = none ∧ ∀ a, k.parse text = .ok a → k.passes a ≠ true) ∨
      ∃ a, k.written text = some a ∧ ¬ k.InRange a ∧ ¬ k.Slips a)

variable {k} {values : Values} {config : AppConfig}

/-- What is read from a text that is a number is the value of that number. -/
theorem eq_of_written {text : String} {a b : k.Number} (hwritten : k.written text = some a)
    (hparse : k.parse text = .ok b) : k.nearest a = b ∧ ¬ k.Overflows a := by
  rcases k.parse_written hwritten with ⟨_, herror⟩ | ⟨hheld, hok⟩
  · rw [herror] at hparse
    cases hparse
  · exact ⟨Except.ok.inj (hok.symm.trans hparse), hheld⟩

/-- What passes is what is in range, or slips into it. -/
theorem passes_iff {text : String} {a : k.Number} (hwritten : k.written text = some a)
    (hheld : ¬ k.Overflows a) : k.passes (k.nearest a) = true ↔ k.InRange a ∨ k.Slips a :=
  (k.passes_nearest hwritten).trans (k.inRange_nearest hwritten hheld)

theorem not_good_iff : ¬ k.Good values ↔ k.Deceives values ∨ k.Refused values := by
  constructor
  · intro hbad
    simp only [Good, not_forall, not_exists, not_and] at hbad
    obtain ⟨text, htext, hbad⟩ := hbad
    cases hwritten : k.written text with
    | none =>
      by_cases hpasses : ∃ a, k.parse text = .ok a ∧ k.passes a = true
      · exact Or.inl ⟨text, htext, Or.inl ⟨hwritten, hpasses⟩⟩
      · simp only [not_exists, not_and] at hpasses
        exact Or.inr ⟨text, htext, Or.inl ⟨hwritten, hpasses⟩⟩
    | some a =>
      by_cases hslips : k.Slips a
      · exact Or.inl ⟨text, htext, Or.inr ⟨a, hwritten, hslips⟩⟩
      · exact Or.inr ⟨text, htext, Or.inr ⟨a, hwritten, hbad a hwritten, hslips⟩⟩
  · have hnot : ∀ {text : String} {a : k.Number}, AppConfig.present values k.key = some text →
        k.written text = some a → ¬ k.InRange a → ¬ k.Good values := by
      intro text a htext hwritten hrange hgood
      obtain ⟨b, hb, hgood⟩ := hgood text htext
      cases Option.some.inj (hwritten.symm.trans hb)
      exact hrange hgood
    have hnone : ∀ {text : String}, AppConfig.present values k.key = some text →
        k.written text = none → ¬ k.Good values := by
      intro text htext hwritten hgood
      obtain ⟨b, hb, _⟩ := hgood text htext
      rw [hwritten] at hb
      cases hb
    rintro (⟨text, htext, ⟨hwritten, _⟩ | ⟨a, hwritten, hslips⟩⟩ |
      ⟨text, htext, ⟨hwritten, _⟩ | ⟨a, hwritten, hrange, _⟩⟩)
    · exact hnone htext hwritten
    · exact hnot htext hwritten (k.slips hslips).1
    · exact hnone htext hwritten
    · exact hnot htext hwritten hrange

theorem not_accepts_iff : ¬ k.Accepts values ↔ k.Loses values ∨ k.Refused values := by
  constructor
  · intro hrefused
    simp only [Accepts, not_forall, not_exists, not_and] at hrefused
    obtain ⟨text, htext, hrefused⟩ := hrefused
    cases hwritten : k.written text with
    | none => exact Or.inr ⟨text, htext, Or.inl ⟨hwritten, hrefused⟩⟩
    | some a =>
      by_cases hrange : k.InRange a
      · refine Or.inl ⟨text, a, htext, hwritten, hrange, ?_⟩
        rcases k.parse_written hwritten with ⟨hover, _⟩ | ⟨hheld, hok⟩
        · exact hover
        · exact absurd ((passes_iff hwritten hheld).2 (Or.inl hrange)) (hrefused _ hok)
      · refine Or.inr ⟨text, htext, Or.inr ⟨a, hwritten, hrange, fun hslips => ?_⟩⟩
        rcases k.parse_written hwritten with ⟨hover, _⟩ | ⟨hheld, hok⟩
        · exact (k.slips hslips).2 hover
        · exact absurd ((passes_iff hwritten hheld).2 (Or.inr hslips)) (hrefused _ hok)
  · rintro (⟨text, a, htext, hwritten, _, hover⟩ |
      ⟨text, htext, ⟨_, hrefused⟩ | ⟨a, hwritten, hrange, hslips⟩⟩) haccepts
    · obtain ⟨b, hparse, _⟩ := haccepts text htext
      exact (eq_of_written hwritten hparse).2 hover
    · obtain ⟨b, hparse, hpasses⟩ := haccepts text htext
      exact hrefused b hparse hpasses
    · obtain ⟨b, hparse, hpasses⟩ := haccepts text htext
      obtain ⟨rfl, hheld⟩ := eq_of_written hwritten hparse
      rcases (passes_iff hwritten hheld).1 hpasses with hin | hin
      · exact hrange hin
      · exact hslips hin

/-- The check returns the value of what a good text writes. -/
theorem Returns.exact (hreturns : k.Returns values (k.field config)) (hgood : k.Good values) :
    k.Exact k.nearest values config := by
  unfold Exact
  rcases hreturns with ⟨hnone, hfallback⟩ | ⟨text, htext, hparse, hpasses⟩
  · rw [hnone, hfallback]
    exact ⟨rfl, k.fallback_inRange⟩
  · obtain ⟨a, hwritten, hrange⟩ := hgood text htext
    obtain ⟨hsame, _⟩ := eq_of_written hwritten hparse
    rw [← hsame] at hpasses
    simp only [htext, hwritten, Option.map_some, ← hsame, true_and]
    exact (k.passes_nearest hwritten).1 hpasses

/-- It returns the number itself unless the type of the field has only a value near it. -/
theorem Returns.exact_iff (hreturns : k.Returns values (k.field config))
    (hgood : k.Good values) :
    k.Exact (fun a => a) values config ↔ ¬ k.Rounds values := by
  have hexact := hreturns.exact hgood
  unfold Exact at hexact ⊢
  unfold Rounds
  rcases hreturns with ⟨hnone, _⟩ | ⟨text, htext, hparse, _⟩
  · rw [hnone] at hexact ⊢
    refine iff_of_true hexact ?_
    rintro ⟨_, _, htext, _⟩
    cases htext
  · obtain ⟨a, hwritten, hrange⟩ := hgood text htext
    obtain ⟨hsame, hheld⟩ := eq_of_written hwritten hparse
    simp only [htext, hwritten, Option.map_some, Option.some.injEq] at hexact ⊢
    constructor
    · rintro ⟨hself, _⟩ ⟨_, _, rfl, hother, _, _, hne⟩
      cases hwritten.symm.trans hother
      exact hne (hsame.trans hself.symm)
    · intro hnone
      have hself : k.nearest a = a := by
        by_contra hne
        exact hnone ⟨text, a, rfl, hwritten, hrange, hheld, hne⟩
      exact ⟨hself.symm.trans hsame, hexact.2⟩

theorem accepts_iff : k.Accepts values ↔ ∃ a, k.Returns values a := by
  unfold Accepts Returns
  cases AppConfig.present values k.key with
  | none => simp
  | some text => simp

end NumericKey

/-- The numeric keys of a configuration, in the order of the check. -/
def numericKeys : List NumericKey :=
  [.count "DB_PORT" 5432 (·.dbPort) (by decide),
   .count "DB_CONNECTION_POOL_SIZE" 4 (·.dbConnectionPoolSize) (by decide),
   .duration "DB_QUERY_TIMEOUT_SECONDS" (.finite 10) (·.dbQueryTimeoutSeconds) (by decide),
   .duration "OBSERVABILITY_TIMEOUT_SECONDS" (.finite 1) (·.observabilityTimeoutSeconds)
     (by decide),
   .count "OBSERVABILITY_BATCH_SIZE" 10 (·.observabilityBatchSize) (by decide),
   .duration "OBSERVABILITY_BATCH_DELAY_SECONDS" (.literal (mkRat 1 10))
     (·.observabilityBatchDelaySeconds) (by decide +kernel),
   .count "OBSERVABILITY_MAX_QUEUE_SIZE" 1024 (·.observabilityMaxQueueSize) (by decide),
   .integer "OBSERVABILITY_RETRY_MAX_ATTEMPTS" 3 (·.observabilityRetryMaxAttempts)
     (fun n => 1 ≤ n ∧ n ≤ 10) (by decide),
   .duration "OBSERVABILITY_RETRY_BASE_DELAY_SECONDS" (.literal (mkRat 1 10))
     (·.observabilityRetryBaseDelaySeconds) (by decide +kernel),
   .count "OBSERVABILITY_CIRCUIT_FAILURE_THRESHOLD" 5
     (·.observabilityCircuitFailureThreshold) (by decide),
   .duration "OBSERVABILITY_CIRCUIT_OPEN_SECONDS" (.finite 30)
     (·.observabilityCircuitOpenSeconds) (by decide),
   .count "HTTP_PORT" 8000 (·.httpPort) (by decide),
   .count "GRPC_PORT" 9000 (·.grpcPort) (by decide),
   .count "REDIS_PORT" 6379 (·.redisPort) (by decide),
   .count "REDIS_CONNECTION_POOL_SIZE" 2 (·.redisConnectionPoolSize) (by decide),
   .duration "REDIS_COMMAND_TIMEOUT_SECONDS" (.finite 1) (·.redisCommandTimeoutSeconds)
     (by decide),
   .count "HTTP_IDLE_CONNECTION_TIMEOUT_SECONDS" 60 (·.idleConnectionTimeoutSeconds)
     (by decide),
   .integer "RATE_LIMIT_REQUESTS" 0 (·.rateLimitRequests) (fun n => 0 ≤ n ∧ n ≤ 65535)
     (by decide),
   .count "RATE_LIMIT_WINDOW_SECONDS" 60 (·.rateLimitWindowSeconds) (by decide),
   .integer "REDIS_DB" 0 (·.redisDb) (0 ≤ ·) (by decide)]

/-- The keys without which there is no configuration. -/
def requiredKeys : List String := ["SECRET_KEY", "DB_HOST", "DB_NAME", "DB_USER"]

namespace AppConfig

/-! ## The check of the whole configuration -/

variable {values : Values}

theorem parsed_eq_ok_iff {α : Type} {parse : String → Except ConversionError α}
    {inRange : α → Bool} {message key : String} {fallback a : α} :
    parsed parse inRange message values key fallback = .ok a ↔
      (present values key = none ∧ a = fallback) ∨
        ∃ text, present values key = some text ∧ parse text = .ok a ∧ inRange a = true := by
  unfold parsed
  cases present values key with
  | none =>
    simp only [Except.ok.injEq, eq_comm, true_and, reduceCtorEq, false_and, exists_false, or_false]
  | some text =>
    simp only [reduceCtorEq, false_and, false_or, Option.some.injEq, exists_eq_left']
    cases parse text with
    | error failure => simp only [reduceCtorEq, false_and]
    | ok b =>
      simp only [Except.ok.injEq]
      cases hpasses : inRange b with
      | false =>
        simp only [Bool.false_eq_true, if_false, reduceCtorEq, false_iff, not_and]
        rintro rfl
        rw [hpasses]
        exact Bool.false_ne_true
      | true =>
        simp only [if_true, Except.ok.injEq, iff_self_and]
        rintro rfl
        exact hpasses

theorem exists_ok_bind {α β : Type} {x : Except String α} {f : α → Except String β} :
    (∃ b, (x >>= f) = .ok b) ↔ ∃ a, x = .ok a ∧ ∃ b, f a = .ok b := by
  cases x with
  | error message => simp [bind, Except.bind]
  | ok a => simp [bind, Except.bind]

/-- Some required key is missing or empty. -/
def Missing (values : Values) : Prop := ∃ key ∈ requiredKeys, present values key = none

theorem required_eq_ok_iff {key value : String} :
    required values key = .ok value ↔ present values key = some value := by
  unfold required
  cases present values key with
  | none => simp
  | some text => simp

theorem exists_ok_throw {α : Type} {refused : Prop} [Decidable refused] {message : String}
    {f : PUnit → Except String α} {x : Except String α} :
    (∃ b, (if refused then throw message >>= f else x) = .ok b) ↔ ¬ refused ∧ ∃ b, x = .ok b := by
  by_cases hrefused : refused
  · simp [hrefused, bind, Except.bind, throw, throwThe, MonadExceptOf.throw]
  · simp [hrefused]

/-! ### The check of one key -/

variable {key : String} {fallback a : Int} {field : AppConfig → Int}

theorem count_returns {hfallback : 1 ≤ fallback ∧ fallback ≤ 65535} :
    (NumericKey.count key fallback field hfallback).Returns values a ↔
      number values key fallback = .ok a := by
  rw [number, parsed_eq_ok_iff]
  simp [NumericKey.Returns, NumericKey.count, NumericKey.integer]

theorem duration_returns {fallback d : Double} {field : AppConfig → Double}
    {hfallback : 0 < fallback ∧ fallback ≤ .finite 3600} :
    (NumericKey.duration key fallback field hfallback).Returns values d ↔
      seconds values key fallback = .ok d :=
  parsed_eq_ok_iff.symm

/-- The second comparison makes the range of the retry attempts smaller. -/
theorem attempts_returns {hfallback : 1 ≤ fallback ∧ fallback ≤ 10} :
    (NumericKey.integer key fallback field (fun n => 1 ≤ n ∧ n ≤ 10) hfallback).Returns values
        a ↔
      number values key fallback = .ok a ∧ ¬ 10 < a := by
  have hten : fallback ≤ 10 := hfallback.2
  rw [number, parsed_eq_ok_iff]
  simp only [NumericKey.Returns, NumericKey.integer, decide_eq_true_eq]
  constructor
  · rintro (⟨hnone, rfl⟩ | ⟨text, htext, hparse, hrange⟩)
    · exact ⟨Or.inl ⟨hnone, rfl⟩, by omega⟩
    · exact ⟨Or.inr ⟨text, htext, hparse, by omega⟩, by omega⟩
  · rintro ⟨⟨hnone, rfl⟩ | ⟨text, htext, hparse, hrange⟩, hten⟩
    · exact Or.inl ⟨hnone, rfl⟩
    · exact Or.inr ⟨text, htext, hparse, by omega⟩

theorem nonNegativeNumber_returns {hfallback : 0 ≤ fallback ∧ fallback ≤ 65535} :
    (NumericKey.integer key fallback field (fun n => 0 ≤ n ∧ n ≤ 65535) hfallback).Returns
        values a ↔ nonNegativeNumber values key fallback = .ok a := by
  rw [nonNegativeNumber, parsed_eq_ok_iff]
  simp [NumericKey.Returns, NumericKey.integer]

theorem database_returns {hfallback : 0 ≤ fallback} :
    (NumericKey.integer key fallback field (0 ≤ ·) hfallback).Returns values a ↔
      database values key fallback = .ok a := by
  rw [database, parsed_eq_ok_iff]
  simp [NumericKey.Returns, NumericKey.integer]

/-! ### All keys -/

/-- The field of a key holds what the check returns for the key. -/
theorem returns_of_fromValues {config : AppConfig} (h : fromValues values = .ok config) :
    ∀ k ∈ numericKeys, k.Returns values (k.field config) := by
  have hread := readFrom_of_fromValues h
  simp only [numericKeys, List.forall_mem_cons]
  exact ⟨count_returns.2 hread.dbPort, count_returns.2 hread.dbConnectionPoolSize,
    duration_returns.2 hread.dbQueryTimeoutSeconds,
    duration_returns.2 hread.observabilityTimeoutSeconds,
    count_returns.2 hread.observabilityBatchSize,
    duration_returns.2 hread.observabilityBatchDelaySeconds,
    count_returns.2 hread.observabilityMaxQueueSize,
    attempts_returns.2 ⟨hread.observabilityRetryMaxAttempts, not_lt.2 hread.attempts⟩,
    duration_returns.2 hread.observabilityRetryBaseDelaySeconds,
    count_returns.2 hread.observabilityCircuitFailureThreshold,
    duration_returns.2 hread.observabilityCircuitOpenSeconds,
    count_returns.2 hread.httpPort, count_returns.2 hread.grpcPort,
    count_returns.2 hread.redisPort, count_returns.2 hread.redisConnectionPoolSize,
    duration_returns.2 hread.redisCommandTimeoutSeconds,
    count_returns.2 hread.idleConnectionTimeoutSeconds,
    nonNegativeNumber_returns.2 hread.rateLimitRequests,
    count_returns.2 hread.rateLimitWindowSeconds,
    database_returns.2 hread.redisDb, by simp⟩

/-- The check lets a configuration through when it lets every key through. -/
theorem exists_config_iff :
    (∃ config, fromValues values = .ok config) ↔
      ¬ Missing values ∧ ∀ k ∈ numericKeys, k.Accepts values := by
  constructor
  · rintro ⟨config, h⟩
    have hread := readFrom_of_fromValues h
    refine ⟨?_, fun k hk => NumericKey.accepts_iff.2 ⟨_, returns_of_fromValues h k hk⟩⟩
    rintro ⟨key, hkey, hnone⟩
    simp only [requiredKeys, List.mem_cons, List.not_mem_nil, or_false] at hkey
    rcases hkey with rfl | rfl | rfl | rfl
    · exact Option.some_ne_none _ ((required_eq_ok_iff.1 hread.secretKey).symm.trans hnone)
    · exact Option.some_ne_none _ ((required_eq_ok_iff.1 hread.dbHost).symm.trans hnone)
    · exact Option.some_ne_none _ ((required_eq_ok_iff.1 hread.dbName).symm.trans hnone)
    · exact Option.some_ne_none _ ((required_eq_ok_iff.1 hread.dbUser).symm.trans hnone)
  · rintro ⟨hrequired, haccepts⟩
    have hpresent : ∀ key ∈ requiredKeys, ∃ value, present values key = some value :=
      fun key hkey => Option.ne_none_iff_exists'.1 fun hnone => hrequired ⟨key, hkey, hnone⟩
    simp only [requiredKeys, List.forall_mem_cons] at hpresent
    obtain ⟨hsecretKey, hdbHost, hdbName, hdbUser, _⟩ := hpresent
    simp only [numericKeys, List.forall_mem_cons, NumericKey.accepts_iff] at haccepts
    obtain ⟨hdbPort, hdbPool, hdbQuery, htimeout, hbatchSize, hbatchDelay, hqueueSize,
      ⟨attempts, hattempts⟩, hretryDelay, hthreshold, hopen, hhttpPort, hgrpcPort, hredisPort,
      hredisPool, hredisTimeout, hidle, hrequests, hwindow, hredisDb, _⟩ := haccepts
    obtain ⟨hnumber, hten⟩ := attempts_returns.1 hattempts
    simp only [fromValues, exists_ok_bind, exists_ok_throw, required_eq_ok_iff, pure,
      Except.pure, Except.ok.injEq, exists_eq', and_true, exists_and_right]
    exact ⟨hsecretKey, hdbHost, hdbPort.imp fun _ => count_returns.1,
      hdbPool.imp fun _ => count_returns.1, hdbQuery.imp fun _ => duration_returns.1, hdbName,
      hdbUser, htimeout.imp fun _ => duration_returns.1,
      hbatchSize.imp fun _ => count_returns.1, hbatchDelay.imp fun _ => duration_returns.1,
      hqueueSize.imp fun _ => count_returns.1, attempts, hnumber, hten,
      hretryDelay.imp fun _ => duration_returns.1, hthreshold.imp fun _ => count_returns.1,
      hopen.imp fun _ => duration_returns.1, hhttpPort.imp fun _ => count_returns.1,
      hgrpcPort.imp fun _ => count_returns.1, hredisPort.imp fun _ => count_returns.1,
      hredisPool.imp fun _ => count_returns.1, hredisTimeout.imp fun _ => duration_returns.1,
      hidle.imp fun _ => count_returns.1, hrequests.imp fun _ => nonNegativeNumber_returns.1,
      hwindow.imp fun _ => count_returns.1, hredisDb.imp fun _ => database_returns.1⟩

theorem exists_error_iff :
    (∃ message, fromValues values = .error message) ↔
      ¬ ∃ config, fromValues values = .ok config := by
  cases fromValues values with
  | error message => simp
  | ok config => simp

/-! ## Exactness -/

/-- The check decides what the texts mean: it throws exactly when a required key is missing
or a numeric key is not good, and otherwise every field has the value of the number that is
written. -/
def ValidationExact (stored : (k : NumericKey) → k.Number → k.Number) (values : Values) : Prop :=
  ((∃ message, fromValues values = .error message) ↔
      Missing values ∨ ∃ k ∈ numericKeys, ¬ k.Good values) ∧
    ∀ config, fromValues values = .ok config →
      ∀ k ∈ numericKeys, k.Exact (stored k) values config

theorem exists_error_iff_refused :
    (∃ message, fromValues values = .error message) ↔
      Missing values ∨ (∃ k ∈ numericKeys, k.Refused values) ∨
        ∃ k ∈ numericKeys, k.Loses values := by
  rw [exists_error_iff, exists_config_iff, not_and_or, not_not, not_forall]
  simp only [Classical.not_imp, NumericKey.not_accepts_iff, and_or_left, exists_or]
  rw [or_comm (a := ∃ k, k ∈ numericKeys ∧ k.Loses values)]

/-- The check throws when it should. -/
theorem throws_iff :
    ((∃ message, fromValues values = .error message) ↔
        Missing values ∨ ∃ k ∈ numericKeys, ¬ k.Good values) ↔
      Missing values ∨ (∃ k ∈ numericKeys, k.Refused values) ∨
        ((∃ k ∈ numericKeys, k.Deceives values) ↔ ∃ k ∈ numericKeys, k.Loses values) := by
  have hbad : (∃ k ∈ numericKeys, ¬ k.Good values) ↔
      (∃ k ∈ numericKeys, k.Refused values) ∨ ∃ k ∈ numericKeys, k.Deceives values := by
    simp only [NumericKey.not_good_iff, and_or_left, exists_or]
    exact or_comm
  rw [exists_error_iff_refused, hbad]
  by_cases hmissing : Missing values
  · simp only [hmissing, true_or]
  · by_cases hrefused : ∃ k ∈ numericKeys, k.Refused values
    · simp only [hrefused, true_or, or_true]
    · simp only [hmissing, hrefused, false_or]
      exact iff_comm

theorem good_of_throws {config : AppConfig}
    (hthrows : (∃ message, fromValues values = .error message) ↔
      Missing values ∨ ∃ k ∈ numericKeys, ¬ k.Good values)
    (h : fromValues values = .ok config) : ∀ k ∈ numericKeys, k.Good values := by
  intro k hk
  by_contra hbad
  obtain ⟨message, herror⟩ := hthrows.2 (Or.inr ⟨k, hk, hbad⟩)
  rw [h] at herror
  cases herror

/-- When the check throws where it should, the fields are the numbers themselves exactly when it
throws or no number is rounded. -/
theorem exact_iff_of_throws
    (hthrows : (∃ message, fromValues values = .error message) ↔
      Missing values ∨ ∃ k ∈ numericKeys, ¬ k.Good values) :
    (∀ config, fromValues values = .ok config →
        ∀ k ∈ numericKeys, k.Exact (fun a => a) values config) ↔
      ((∃ message, fromValues values = .error message) ∨
        ∀ k ∈ numericKeys, ¬ k.Rounds values) := by
  cases hresult : fromValues values with
  | error message => simp
  | ok config =>
    have hgood := good_of_throws hthrows hresult
    simp only [Except.ok.injEq, forall_eq', reduceCtorEq, exists_false, false_or]
    exact forall₂_congr fun k hk => (returns_of_fromValues hresult k hk).exact_iff (hgood k hk)

/-- The check is exact unless the text of some key only starts with a number that passes, is
a number that rounding brings into the range, or is one that the type of its field does not
have.  When a required key is missing, or the text of some key is refused for what it is, the
check throws as it should, and when keys of both kinds meet it does so for the wrong one.  A
field has the nearest value of its type, and that is the number itself unless it is one that
no `double` has. -/
theorem validation_exact_iff (values : Values) :
    (ValidationExact NumericKey.nearest values ↔
      Missing values ∨ (∃ k ∈ numericKeys, k.Refused values) ∨
        ((∃ k ∈ numericKeys, k.Deceives values) ↔ ∃ k ∈ numericKeys, k.Loses values)) ∧
    (ValidationExact (fun _ a => a) values ↔
      Missing values ∨ (∃ k ∈ numericKeys, k.Refused values) ∨
        ((∃ k ∈ numericKeys, k.Deceives values) ∧ ∃ k ∈ numericKeys, k.Loses values) ∨
        ∀ k ∈ numericKeys, ¬ k.Deceives values ∧ ¬ k.Loses values ∧ ¬ k.Rounds values) := by
  constructor
  · rw [ValidationExact, and_iff_left_of_imp, throws_iff]
    intro hthrows config h k hk
    exact (returns_of_fromValues h k hk).exact (good_of_throws hthrows h k hk)
  · rw [ValidationExact, and_congr_right exact_iff_of_throws, throws_iff, exists_error_iff_refused]
    by_cases hmissing : Missing values
    · simp only [hmissing, true_or, and_true]
    · by_cases hrefused : ∃ k ∈ numericKeys, k.Refused values
      · simp only [hrefused, true_or, or_true, and_true]
      · simp only [hmissing, hrefused, false_or, forall_and]
        by_cases hloses : ∃ k ∈ numericKeys, k.Loses values
        · have hsome : ¬ ∀ k ∈ numericKeys, ¬ k.Loses values := by
            simpa using hloses
          simp only [hloses, hsome, iff_true, true_or, and_true, false_and, and_false, or_false]
        · have hnone : ∀ k ∈ numericKeys, ¬ k.Loses values := by
            simpa using hloses
          have hdeceives : (¬ ∃ k ∈ numericKeys, k.Deceives values) ↔
              ∀ k ∈ numericKeys, ¬ k.Deceives values := by simp
          simp only [hloses, iff_false, false_or, and_false, hdeceives]
          tauto

/-- The required keys, with a port that somebody mistyped and a timeout that is no number. -/
def mistyped : Values := fun key =>
  [("SECRET_KEY", "k"), ("DB_HOST", "db"), ("DB_NAME", "app"), ("DB_USER", "app"),
   ("HTTP_PORT", "8080abc"), ("DB_QUERY_TIMEOUT_SECONDS", "nan")].lookup key

/-- The check reads `8080` and `nan`, and finds nothing wrong with them. -/
theorem mistyped_accepted :
    (fromValues mistyped).toOption.map (fun config =>
        (config.httpPort, config.dbQueryTimeoutSeconds)) = some (8080, .nan) ∧
      ¬ ValidationExact NumericKey.nearest mistyped ∧
      ¬ ValidationExact (fun _ a => a) mistyped := by
  have hfields : (fromValues mistyped).toOption.map (fun config =>
      (config.httpPort, config.dbQueryTimeoutSeconds)) = some (8080, .nan) := by
    decide +kernel
  have hthrows : ¬ ((∃ message, fromValues mistyped = .error message) ↔
      Missing mistyped ∨ ∃ k ∈ numericKeys, ¬ k.Good mistyped) := by
    intro hexact
    -- The twelfth key is the port.
    have hport : numericKeys[11] ∈ numericKeys := List.getElem_mem _
    have hbad : ¬ numericKeys[11].Good mistyped := by
      intro hgood
      obtain ⟨n, hwritten, _⟩ := hgood "8080abc" (by decide)
      have hnone : wholeInteger "8080abc" = none := by decide
      exact Option.some_ne_none n (hwritten.symm.trans hnone)
    obtain ⟨message, herror⟩ := hexact.2 (Or.inr ⟨_, hport, hbad⟩)
    rw [herror] at hfields
    cases hfields
  exact ⟨hfields, fun hexact => hthrows hexact.1, fun hexact => hthrows hexact.1⟩

end AppConfig

end DrogonStarter
