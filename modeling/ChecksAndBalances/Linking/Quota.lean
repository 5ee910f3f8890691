import ChecksAndBalances.Linking.Login

/-!
# How many challenges an account can open

Every `begin` counts an attempt of its account before it opens a challenge.  The count is what the
database answers to the one increment of the request, so that no interleaving opens more challenges
in a window than the limit allows.
-/

namespace ChecksAndBalances

open Lib Lib.Tx Threads

/-! ## Attempts and challenges of a log -/

/-- The count of an attempt under the key. -/
def LinkingItem.count (key : String) : LinkingItem → Option ℕ
  | ⟨.auth (.email (.store (.increment input))), count⟩ =>
    if input.keyDigest = key then some count else none
  | _ => none

variable {W : Type}

/-- The attempts of a log under the key: the requests with their counts. -/
def grants (key : String) (log : List (LinkingEntry W)) : List (W × ℕ) :=
  log.filterMap fun e => (LinkingItem.count key e.item).map fun count => (e.thread, count)

section Steps

variable {db db' : Db} {key : String}

/-- The counter of a key stands at least at every count that was given, and no count is given twice. -/
structure Numbered (key : String) (log : List (LinkingEntry W)) (db : Db) : Prop where
  distinct : ((grants key log).map Prod.snd).Nodup
  bounds : ∀ g ∈ grants key log, 0 < g.2 ∧ g.2 ≤ attempts key db.authRateLimitBuckets

theorem Numbered.congr {log : List (LinkingEntry W)} (h : Numbered key log db)
    (hbuckets : db'.authRateLimitBuckets = db.authRateLimitBuckets) : Numbered key log db' :=
  ⟨h.distinct, hbuckets ▸ h.bounds⟩

/-- A call that counts no attempt under the key. -/
theorem Numbered.uncounted {earlier : List (LinkingEntry W)} (h : Numbered key earlier db)
    {e : LinkingEntry W} (hnone : LinkingItem.count key e.item = none)
    (hattempts : attempts key db'.authRateLimitBuckets = attempts key db.authRateLimitBuckets) :
    Numbered key (e :: earlier) db' := by
  have hgrants : grants key (e :: earlier) = grants key earlier := by
    simp [grants, hnone]
  refine ⟨hgrants ▸ h.distinct, ?_⟩
  rw [hgrants, hattempts]
  exact h.bounds

/-- An attempt under the key gets a count that was not given before. -/
theorem Numbered.counted {earlier : List (LinkingEntry W)} (h : Numbered key earlier db)
    {e : LinkingEntry W} {count : ℕ} (hsome : LinkingItem.count key e.item = some count)
    (hcount : count = attempts key db.authRateLimitBuckets + 1)
    (hattempts : attempts key db'.authRateLimitBuckets = count) :
    Numbered key (e :: earlier) db' := by
  have hgrants : grants key (e :: earlier) = (e.thread, count) :: grants key earlier := by
    simp [grants, hsome]
  constructor
  · rw [hgrants, List.map_cons, List.nodup_cons]
    refine ⟨fun hmem => ?_, h.distinct⟩
    obtain ⟨g, hg, hsame⟩ := List.mem_map.1 hmem
    have hle := (h.bounds g hg).2
    omega
  · rw [hgrants, hattempts]
    rintro g (_ | ⟨_, hg⟩)
    · omega
    · have hbounds := h.bounds g hg
      omega

theorem Numbered.step {earlier : List (LinkingEntry W)} {e : LinkingEntry W}
    (h : Numbered key earlier e.before)
    (heffect : LinkingEffect e.before e.call e.answer e.after) :
    Numbered key (e :: earlier) e.after := by
  obtain ⟨thread, request, past, call, answer, before, after⟩ := e
  dsimp only at h heffect ⊢
  cases heffect with
  | kept hcall hrows =>
    obtain ⟨call, rfl⟩ := hcall
    exact h.uncounted rfl (by rw [(linkingRows_congr hrows).2.2])
  | opened hidentities htables hbuckets => exact h.uncounted rfl (by rw [hbuckets])
  | linked heffect hidentities hbuckets => exact h.uncounted rfl (by rw [hbuckets])
  | @counted input _ _ hcount hrows =>
    have hbuckets := (Prod.mk.inj (Prod.mk.inj hrows).2).2
    by_cases hkey : input.keyDigest = key
    · subst hkey
      refine h.counted (if_pos rfl) hcount ?_
      rw [hbuckets, attempts_counted_self, hcount]
    · refine h.uncounted (if_neg hkey) ?_
      rw [hbuckets, attempts_counted_of_ne (Ne.symm hkey)]

end Steps

/-! ## Runs -/

section Runs

variable [LinkingHost] [DecidableEq W] {config : LinkingConfig} {start db : Db}
  {log : List (LinkingEntry W)}

end Runs

namespace LinkingSample

end LinkingSample

end ChecksAndBalances
