import BrokerMcp.Oauth.Cache
import BrokerMcp.TokenExchange.Exchanger

namespace BrokerMcp.Proof.Oauth
open BrokerMcp.TokenExchange BrokerMcp.Oauth
open Transition

def FitsInt64 (n : Int) : Prop := -maxDuration - 1 ≤ n ∧ n ≤ maxDuration

def tokenLifetime (e : Exchanger) (sr : SuccessResponse) : Int :=
  if sr.expiresIn = 0 then e.tokenExpiryFallback else sr.expiresIn * second

theorem lifetime_ok {e : Exchanger} {sr : SuccessResponse} {life : Int} {used : Bool}
    (accepted : lifetime e sr.expiresIn = .ok (life, used)) :
    life = tokenLifetime e sr ∧ 0 ≤ sr.expiresIn ∧ sr.expiresIn ≤ maxExpiresInSeconds := by
  unfold lifetime at accepted
  split_ifs at accepted with negative zero missing large
  · obtain ⟨rfl, -⟩ := Prod.mk.inj (Except.ok.inj accepted)
    rw [tokenLifetime, if_pos zero, zero]
    exact ⟨rfl, Int.le_refl 0, by decide⟩
  · obtain ⟨rfl, -⟩ := Prod.mk.inj (Except.ok.inj accepted)
    rw [tokenLifetime, if_neg zero]
    exact ⟨rfl, Int.not_lt.mp negative, Int.not_lt.mp large⟩

theorem tokenLifetime_fits {e : Exchanger} {sr : SuccessResponse}
    (nonnegative : 0 ≤ e.tokenExpiryFallback) (fallback : FitsInt64 e.tokenExpiryFallback)
    (least : 0 ≤ sr.expiresIn) (most : sr.expiresIn ≤ maxExpiresInSeconds) :
    FitsInt64 (tokenLifetime e sr) ∧ FitsInt64 (tokenLifetime e sr - defaultTokenExpirySkew) := by
  have range : 0 ≤ tokenLifetime e sr ∧ tokenLifetime e sr ≤ maxDuration := by
    unfold tokenLifetime
    split_ifs
    · exact ⟨nonnegative, fallback.2⟩
    · simp only [second, maxExpiresInSeconds, maxDuration] at most ⊢
      omega
  simp only [FitsInt64, defaultTokenExpirySkew, second, maxDuration] at range ⊢
  omega

theorem parseSuccessBody_ok {e : Exchanger} {format : Format} {body : Body} {now : Int}
    {token : Token} {used : Bool}
    (accepted : parseSuccessBody e format body now = .ok (token, used)) :
    ∃ sr, body.success = .ok sr ∧ ∃ life, lifetime e sr.expiresIn = .ok (life, used) ∧
      token.expiresAt = now + (life - defaultTokenExpirySkew) := by
  unfold parseSuccessBody at accepted
  split at accepted
  · cases accepted
  · rename_i sr decoded
    refine ⟨sr, decoded, ?_⟩
    split_ifs at accepted
    cases chosen : lifetime e sr.expiresIn with
    | error err =>
        rw [chosen] at accepted
        cases accepted
    | ok result =>
        rw [chosen] at accepted
        obtain ⟨rfl, rfl⟩ := Prod.mk.inj (Except.ok.inj accepted)
        exact ⟨_, rfl, rfl⟩

section Durations

variable {now expiresAt maxTTL : Int}

theorem deriveTTL_pos_iff (positive : 0 < maxTTL) :
    0 < Oauth.deriveTTL now expiresAt maxTTL ↔ now < expiresAt := by
  simp only [Oauth.deriveTTL, sub, maxDuration]
  split_ifs <;> omega

theorem deriveTTL_nonneg : 0 ≤ Oauth.deriveTTL now expiresAt maxTTL := by
  simp only [Oauth.deriveTTL]
  split_ifs <;> omega

/-- The subtraction of two instants saturates only where the cap applies anyway. -/
theorem deriveTTL_eq (bounded : maxTTL ≤ maxDuration) :
    Oauth.deriveTTL now expiresAt maxTTL = TokenExchange.deriveTTL now expiresAt maxTTL := by
  simp only [Oauth.deriveTTL, TokenExchange.deriveTTL, sub, maxDuration] at bounded ⊢
  split_ifs <;> omega

theorem expiryCalculator_range (positive : 0 < maxTTL) (entry : CachedCredential) :
    0 < expiryCalculator maxTTL now entry ∧ expiryCalculator maxTTL now entry ≤ maxTTL := by
  simp only [expiryCalculator, Oauth.deriveTTL, nanosecond]
  split_ifs <;> omega

theorem le_written_add (bounded : maxTTL ≤ maxDuration) (written : Int)
    (entry : CachedCredential) :
    min entry.expiresAt (written + maxTTL) ≤ written + expiryCalculator maxTTL written entry := by
  simp only [expiryCalculator, deriveTTL_eq bounded, TokenExchange.deriveTTL, nanosecond]
  split_ifs <;> omega

end Durations

def Holds (o : OtterTokenCache) (key : String) (entry : CachedCredential) (limit : Int) : Prop :=
  ∀ t < limit, o.getIfPresent key t = some entry

def Displaces (key : String) (p : OtterTokenCache × CacheAction) : Prop :=
  match p.2 with
  | .get _ _ _ => False
  | .put k entry now written => k = key ∧ (p.1.put k entry now written).1 = .stored
  | .delete k => k = key
  | .evict k => k = key

theorem put_stored_iff {o : OtterTokenCache} (positive : 0 < o.maxTTL) (key : String)
    (entry : CachedCredential) (now written : Int) :
    (o.put key entry now written).1 = .stored ↔ now < entry.expiresAt := by
  rw [← deriveTTL_pos_iff positive]
  have nonneg := @deriveTTL_nonneg now entry.expiresAt o.maxTTL
  unfold OtterTokenCache.put
  split_ifs with dropped
  · exact iff_of_false (nofun) (by omega)
  · exact iff_of_true rfl (by omega)

theorem getIfPresent_clock (o : OtterTokenCache) (clock : Int) (key : String) (t : Int) :
    OtterTokenCache.getIfPresent { o with clock } key t = o.getIfPresent key t := rfl

theorem put_holds {o : OtterTokenCache} (positive : 0 < o.maxTTL) (bounded : o.maxTTL ≤ maxDuration)
    {key : String} {entry : CachedCredential} {now written : Int}
    (stored : (o.put key entry now written).1 = .stored) :
    Holds (o.put key entry now written).2 key entry (min entry.expiresAt (written + o.maxTTL)) := by
  intro t early
  unfold OtterTokenCache.put at stored ⊢
  split_ifs at stored ⊢
  have range : 0 < expiryCalculator o.maxTTL written entry ∧
      expiryCalculator o.maxTTL written entry ≤ o.maxTTL := expiryCalculator_range positive entry
  have limit := le_written_add bounded written entry
  have kept : Node.kept ⟨entry, keepFrom written (expiryCalculator o.maxTTL written entry)⟩ t =
      true := by
    rw [Node.kept, keepFrom, if_pos range.1, Option.all_some, decide_eq_true_eq]
    exact Int.lt_of_lt_of_le early limit
  dsimp only [OtterTokenCache.getIfPresent]
  rw [Assoc.lookup_put, if_pos rfl, Option.filter_some, if_pos kept, Option.map_some]

theorem remove_getIfPresent (o : OtterTokenCache) {k key : String} (other : k ≠ key) (t : Int) :
    (o.remove k).getIfPresent key t = o.getIfPresent key t := by
  rw [OtterTokenCache.getIfPresent, OtterTokenCache.remove, Assoc.lookup_drop, if_neg other.symm]
  rfl

theorem Holds.step {o o' : OtterTokenCache} {a : CacheAction} {key : String}
    {entry : CachedCredential} {limit : Int} (holds : Holds o key entry limit)
    (taken : o.step a = some o') (kept : ¬ Displaces key (o, a)) : Holds o' key entry limit := by
  intro t early
  rw [← holds t early]
  cases a with
  | get k looked now =>
      rw [OtterTokenCache.step] at taken
      split_ifs at taken
      obtain rfl := Option.some.inj taken
      rfl
  | put k other now written =>
      rw [OtterTokenCache.step] at taken
      split_ifs at taken
      obtain rfl := Option.some.inj taken
      rw [getIfPresent_clock]
      cases status : (o.put k other now written).1 with
      | droppedTTL =>
          unfold OtterTokenCache.put at status ⊢
          split_ifs at status ⊢
          rfl
      | stored =>
          have apart : key ≠ k := fun same => kept ⟨same.symm, status⟩
          unfold OtterTokenCache.put at status ⊢
          split_ifs at status ⊢
          dsimp only [OtterTokenCache.getIfPresent]
          rw [Assoc.lookup_put, if_neg apart]
  | delete k =>
      obtain rfl := Option.some.inj taken
      exact remove_getIfPresent o kept t
  | evict k =>
      obtain rfl := Option.some.inj taken
      exact remove_getIfPresent o kept t

theorem get_hit {retained : Option CachedCredential} {now : Int} {entry : CachedCredential} :
    Oauth.get retained now = .hit entry ↔ retained = some entry ∧ now < entry.expiresAt := by
  cases retained with
  | none => exact iff_of_false nofun fun both => nomatch both.1
  | some found =>
      rw [Oauth.get, Option.some_inj]
      split_ifs with fresh
      · constructor
        · rintro ⟨⟩
          exact ⟨rfl, fresh⟩
        · rintro ⟨rfl, -⟩
          rfl
      · refine iff_of_false nofun ?_
        rintro ⟨rfl, early⟩
        exact fresh early

structure Configured (e : Exchanger) (maxTTL : Int) : Prop where
  fallback : 0 ≤ e.tokenExpiryFallback
  fits : FitsInt64 e.tokenExpiryFallback
  positive : 0 < maxTTL
  bounded : maxTTL ≤ maxDuration

/-- The expiry of a token is the receipt of the reply plus its lifetime less one skew, no reading
after it is a hit, and an entry that was stored is a hit until then or until the cap. -/
theorem token_expiry_exact (e : Exchanger) (format : Format) (maxTTL : Int)
    (configured : Configured e maxTTL) :
    (∀ body now token used, parseSuccessBody e format body now = .ok (token, used) →
      ∃ sr, body.success = .ok sr ∧
        token.expiresAt = now + (tokenLifetime e sr - defaultTokenExpirySkew) ∧
        FitsInt64 (tokenLifetime e sr) ∧
        FitsInt64 (tokenLifetime e sr - defaultTokenExpirySkew)) ∧
    (∀ retained now (entry : CachedCredential), Oauth.get retained now = .hit entry → now < entry.expiresAt) ∧
    (∀ now entry, 0 < expiryCalculator maxTTL now entry ∧
      expiryCalculator maxTTL now entry ≤ maxTTL) ∧
    (∀ (o : OtterTokenCache) key (entry : CachedCredential) now written, o.maxTTL = maxTTL →
      ((o.put key entry now written).1 = .stored ↔ now < entry.expiresAt)) ∧
    ∀ (o o₁ : OtterTokenCache) key (entry : CachedCredential) now written, o.maxTTL = maxTTL →
      o.step (.put key entry now written) = some o₁ → (o.put key entry now written).1 = .stored →
      ∀ history o₂, Run OtterTokenCache.step o₁ history o₂ → (∀ p ∈ history, ¬ Displaces key p) →
      ∀ looked later, o₂.clock ≤ looked → looked ≤ later →
        later < min entry.expiresAt (written + maxTTL) → o₂.get key looked later = .hit entry := by
  refine ⟨?_, fun _ _ _ hit => (get_hit.mp hit).2,
    fun _ => expiryCalculator_range configured.positive, ?_, ?_⟩
  · intro body now token used accepted
    obtain ⟨sr, decoded, life, chosen, expires⟩ := parseSuccessBody_ok accepted
    obtain ⟨rfl, least, most⟩ := lifetime_ok chosen
    exact ⟨sr, decoded, expires,
      tokenLifetime_fits configured.fallback configured.fits least most⟩
  · rintro o key entry now written rfl
    exact put_stored_iff configured.positive key entry now written
  · rintro o o₁ key entry now written rfl taken stored history o₂ run kept looked later - in_ early
    have first : Holds o₁ key entry (min entry.expiresAt (written + o.maxTTL)) := by
      rw [OtterTokenCache.step] at taken
      split_ifs at taken
      obtain rfl := Option.some.inj taken
      exact put_holds configured.positive configured.bounded stored
    have last := run.invariant_of
      (motive := fun o' => Holds o' key entry (min entry.expiresAt (written + o.maxTTL)))
      kept first (fun _ _ _ holds kept taken => holds.step taken kept)
    refine get_hit.mpr ⟨last looked ?_, ?_⟩
    · exact Int.lt_of_le_of_lt in_ early
    · exact Int.lt_of_lt_of_le early (Int.min_le_left _ _)

def fiveMinutes : Exchanger where
  grantType := .jwtBearer
  tokenExpiryFallback := 300 * second
  maxHonoredRetryAfter := 0
  chainDeadline := 19 * second
  maxRetries := 2

def noLifetime : Body := ⟨.ok ⟨"abc", "Bearer", "", 0⟩, none⟩

def anyFormat : Format := ⟨fun _ => none, some, id⟩

def hourly : OtterTokenCache := ⟨3600 * second, [], 0⟩

def fiveMinuteToken : CachedCredential := ⟨"abc", 270 * second⟩

theorem token_expiry_exact_fallback : Configured fiveMinutes hourly.maxTTL ∧
    parseSuccessBody fiveMinutes anyFormat noLifetime 0 = .ok (⟨"abc", 270 * second⟩, true) ∧
    ∃ o₁ history o₂, hourly.step (.put "k" fiveMinuteToken second (3 * second)) = some o₁ ∧
      Run OtterTokenCache.step o₁ history o₂ ∧
      o₂.get "k" (5 * second) (270 * second - 1) = .hit fiveMinuteToken := by
  have configured : Configured fiveMinutes hourly.maxTTL := by
    refine ⟨by decide, ⟨by decide, by decide⟩, by decide, by decide⟩
  have bearer : "Bearer".toLower = "bearer" := by decide +kernel
  have parsed : parseSuccessBody fiveMinutes anyFormat noLifetime 0 =
      .ok (⟨"abc", 270 * second⟩, true) := by
    simp [parseSuccessBody, noLifetime, bearer, fiveMinutes, lifetime, Except.map, second,
      defaultTokenExpirySkew]
  refine ⟨configured, parsed, ?_⟩
  obtain ⟨o₁, taken⟩ : ∃ o₁, hourly.step (.put "k" fiveMinuteToken second (3 * second)) = some o₁ :=
    ⟨_, rfl⟩
  obtain ⟨o₂, done, clock⟩ : ∃ o₂, exec OtterTokenCache.step o₁
      [.put "other" fiveMinuteToken (4 * second) (4 * second), .delete "other"] = some o₂ ∧
      o₂.clock = 4 * second := by
    obtain rfl := Option.some.inj taken
    exact ⟨_, rfl, rfl⟩
  have law := (token_expiry_exact fiveMinutes anyFormat hourly.maxTTL configured).2.2.2.2
  refine ⟨o₁, _, o₂, taken, run_of_exec done, ?_⟩
  refine law hourly o₁ "k" fiveMinuteToken second (3 * second) rfl taken rfl _ o₂ (run_of_exec done)
    ?_ _ _ (by rw [clock]; decide) (by decide) (by decide)
  intro p member
  have action := action_of_mem_trace member
  rcases List.mem_pair.mp action with put | delete
  · rw [Displaces, put]
    exact fun both => absurd both.1 (by decide)
  · have apart : "other" ≠ "k" := by decide
    rw [Displaces, delete]
    exact apart

end BrokerMcp.Proof.Oauth
