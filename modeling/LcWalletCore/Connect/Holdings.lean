import LcWalletCore.Connect.Liveness
import LcWalletCore.Connect.Screen

/-!
# Holdings at a login

A login response lists what every relying party holds for the wallet, and the list is meant to be
the whole truth: `restated` is the entry it should leave for a domain, the last report of the
domain unless that report is empty. The notifications leave exactly that
(`holdings_asNotifications`). The loop of `sync_holdings` skips an empty report instead of taking
it as a clear, so it does so only where there is nothing left to clear
(`loginRestatesHoldings_iff`).
-/

namespace LcWalletCore.Connect
open Lib Key

/-! ## What a list of reports says -/

/-- The last report of a domain in a list. -/
def lastReport (reports : List HoldingsReport) (domain : String) : Option HoldingsReport :=
  (reports.filter fun report => report.domain = domain).getLast?

/-- The entry a list of reports should leave for a domain: its last report, unless empty. -/
def restated (reports : List HoldingsReport) (domain : String) : Option HoldingsReport :=
  (lastReport reports domain).filter fun report => !report.holdings.isEmpty

theorem lastReport_concat (reports : List HoldingsReport) (report : HoldingsReport)
    (domain : String) :
    lastReport (reports ++ [report]) domain
      = if report.domain = domain then some report else lastReport reports domain := by
  unfold lastReport
  rw [List.filter_append]
  by_cases h : report.domain = domain
  · simp [h]
  · simp [h]

theorem lastReport_eq_none_iff (reports : List HoldingsReport) (domain : String) :
    lastReport reports domain = none ↔ ∀ report ∈ reports, report.domain ≠ domain := by
  unfold lastReport
  rw [List.getLast?_eq_none_iff, List.filter_eq_nil_iff]
  simp

/-- What a report tells the notification handler about a domain: an empty one is a clear. -/
def updates (domain : String) (report : HoldingsReport) : Option (Option HoldingsReport) :=
  if report.domain = domain then
    some (if report.holdings.isEmpty then none else some report)
  else none

/-- What a report tells `sync_holdings` about a domain: an empty one is passed over. -/
def restates (domain : String) (report : HoldingsReport) : Option (Option HoldingsReport) :=
  if report.domain = domain ∧ report.holdings.isEmpty = false then some (some report) else none

/-- Taken as notifications, the reports leave the last one, or what was there if there is none. -/
theorem latest_updates (domain : String) (stored : Option HoldingsReport)
    (reports : List HoldingsReport) :
    latest (updates domain) stored reports
      = if lastReport reports domain = none then stored else restated reports domain := by
  induction reports using List.reverseRecOn with
  | nil => rfl
  | append_singleton reports report ih =>
    unfold restated at ih ⊢
    rw [latest_append, latest_singleton, ih, lastReport_concat]
    unfold updates
    by_cases h : report.domain = domain
    · simp only [h, if_true, Option.getD_some, reduceCtorEq, if_false]
      by_cases hempty : report.holdings.isEmpty = true
      · simp [hempty, Option.filter]
      · simp [hempty, Option.filter]
    · simp only [h, if_false, Option.getD_none]

/-- A last report that is not empty is what `sync_holdings` leaves. -/
theorem latest_restates_of_last {domain : String} {reports : List HoldingsReport}
    {report : HoldingsReport} (hlast : lastReport reports domain = some report)
    (hfull : report.holdings.isEmpty = false) (stored : Option HoldingsReport) :
    latest (restates domain) stored reports = some report := by
  induction reports using List.reverseRecOn with
  | nil => simp [lastReport] at hlast
  | append_singleton reports other ih =>
    rw [latest_append, latest_singleton]
    rw [lastReport_concat] at hlast
    unfold restates
    by_cases h : other.domain = domain
    · rw [if_pos h] at hlast
      have heq : other = report := Option.some.inj hlast
      rw [if_pos ⟨h, heq ▸ hfull⟩, heq]
      rfl
    · rw [if_neg h] at hlast
      rw [if_neg (fun hboth => h hboth.1)]
      exact ih hlast

/-- `sync_holdings` leaves no entry exactly when there was none and every report is empty. -/
theorem latest_restates_eq_none_iff (domain : String) (stored : Option HoldingsReport)
    (reports : List HoldingsReport) :
    latest (restates domain) stored reports = none ↔
      stored = none ∧
        ∀ report ∈ reports, report.domain = domain → report.holdings.isEmpty = true := by
  induction reports using List.reverseRecOn with
  | nil => simp
  | append_singleton reports report ih =>
    rw [latest_append, latest_singleton]
    unfold restates
    -- the last report either restates the domain or says nothing of it
    by_cases hwrites : report.domain = domain ∧ report.holdings.isEmpty = false
    · rw [if_pos hwrites]
      constructor
      · intro h
        exact absurd h (by simp)
      · intro h
        have hempty := h.2 report (by simp) hwrites.1
        rw [hwrites.2] at hempty
        exact absurd hempty (by simp)
    · rw [if_neg hwrites]
      show latest (restates domain) stored reports = none ↔ _
      rw [ih]
      have hlast : report.domain = domain → report.holdings.isEmpty = true := by
        intro hdomain
        by_contra hfull
        exact hwrites ⟨hdomain, by simpa using hfull⟩
      constructor
      · intro h
        refine ⟨h.1, ?_⟩
        intro other hother hdomain
        rcases List.mem_append.mp hother with hother | hother
        · exact h.2 other hother hdomain
        · rw [List.mem_singleton] at hother
          subst hother
          exact hlast hdomain
      · intro h
        exact ⟨h.1, fun other hother => h.2 other (List.mem_append_left _ hother)⟩

/-! ## The two paths, one domain at a time -/

theorem mem_omittedDomains (stored : Std.TreeMap String HoldingsReport)
    (reports : List HoldingsReport) (domain : String) :
    domain ∈ omittedDomains stored reports ↔
      domain ∈ stored ∧ ∀ report ∈ reports, report.domain ≠ domain := by
  unfold omittedDomains
  rw [List.mem_filter, Std.TreeMap.mem_keys]
  simp

theorem getElem?_foldl_clearDomain (domain : String) (domains : List String)
    (s : Std.TreeMap String HoldingsReport × List Effect) :
    (domains.foldl clearDomain s).1[domain]?
      = if domain ∈ domains then none else s.1[domain]? := by
  have hmap : (domains.foldl clearDomain s).1 = domains.foldl (fun m id => m.erase id) s.1 :=
    (List.foldl_hom Prod.fst fun _ _ => rfl).symm
  rw [hmap, getElem?_foldl_erase]

theorem getElem?_foldl_restate (domain : String) (reports : List HoldingsReport) :
    ∀ s : Std.TreeMap String HoldingsReport × List Effect,
      (reports.foldl restate s).1[domain]? = latest (restates domain) s.1[domain]? reports := by
  induction reports with
  | nil => exact fun s => rfl
  | cons report reports ih =>
    intro s
    rw [List.foldl_cons, ih, latest_cons]
    unfold restate restates
    by_cases hempty : report.holdings.isEmpty = true
    · simp [hempty]
    · rw [if_neg hempty]
      show latest _ (s.1.insert report.domain report)[domain]? reports = _
      rw [getElem?_insert_string]
      by_cases h : report.domain = domain
      · simp [h, hempty]
      · simp [h]

/-- What is left of the stored entry once the omitted domains are cleared. -/
def unlessOmitted (stored : Std.TreeMap String HoldingsReport) (reports : List HoldingsReport)
    (domain : String) : Option HoldingsReport :=
  if lastReport reports domain = none then none else stored[domain]?

theorem cleared_eq_unlessOmitted (stored : Std.TreeMap String HoldingsReport)
    (reports : List HoldingsReport) (domain : String) :
    (if domain ∈ omittedDomains stored reports then none else stored[domain]?)
      = unlessOmitted stored reports domain := by
  unfold unlessOmitted
  by_cases hlisted : lastReport reports domain = none
  · rw [if_pos hlisted]
    rw [lastReport_eq_none_iff] at hlisted
    by_cases hmem : domain ∈ stored
    · rw [if_pos ((mem_omittedDomains _ _ _).mpr ⟨hmem, hlisted⟩)]
    · rw [if_neg fun h => hmem ((mem_omittedDomains _ _ _).mp h).1]
      exact Std.TreeMap.getElem?_eq_none hmem
  · rw [if_neg hlisted, if_neg]
    intro homitted
    exact hlisted ((lastReport_eq_none_iff _ _).mpr ((mem_omittedDomains _ _ _).mp homitted).2)

/-- The entry `sync_holdings` leaves. -/
theorem getElem?_holdingsSnapshot (stored : Std.TreeMap String HoldingsReport)
    (reports : List HoldingsReport) (domain : String) :
    (holdingsSnapshot stored reports).1[domain]?
      = latest (restates domain) (unlessOmitted stored reports domain) reports := by
  unfold holdingsSnapshot
  rw [getElem?_foldl_restate, getElem?_foldl_clearDomain, cleared_eq_unlessOmitted]

/-- What an effect draws under a domain. -/
def tellsHoldings (domain : String) : Effect → Option (Option HoldingsReport)
  | .setHoldings report => if report.domain = domain then some (some report) else none
  | .clearHoldings cleared => if cleared = domain then some none else none
  | _ => none

theorem getElem?_foldl_onEffect (domain : String) (effects : List Effect) :
    ∀ v : HostView, (effects.foldl HostView.onEffect v).holdings[domain]?
      = latest (tellsHoldings domain) v.holdings[domain]? effects := by
  induction effects with
  | nil => exact fun v => rfl
  | cons e effects ih =>
    intro v
    rw [List.foldl_cons, ih, latest_cons]
    congr 1
    cases e with
    | setHoldings report =>
      show (v.holdings.insert report.domain report)[domain]? = _
      rw [getElem?_insert_string]
      by_cases h : report.domain = domain <;> simp [tellsHoldings, h]
    | clearHoldings cleared =>
      show (v.holdings.erase cleared)[domain]? = _
      rw [getElem?_erase_string]
      by_cases h : cleared = domain <;> simp [tellsHoldings, h]
    | _ => rfl

/-! ## The same reports as notifications -/

/-- Clear what the list omits, then hand in every report as an update. -/
def asNotifications (stored : Std.TreeMap String HoldingsReport) (reports : List HoldingsReport) :
    List Input :=
  (omittedDomains stored reports).map (fun domain => received (.notif (.holdingsRemoved domain)))
    ++ reports.map fun report => received (.notif (.holdingsUpdated report))

section Login
variable (C : Crypto)

theorem holdings_removals (domain : String) (domains : List String) :
    ∀ core : WalletConnectCore, (coreAfter C core (domains.map fun gone =>
      received (.notif (.holdingsRemoved gone)))).holdings[domain]?
        = if domain ∈ domains then none else core.holdings[domain]? := by
  induction domains with
  | nil => exact fun core => by simp [coreAfter]
  | cons gone domains ih =>
    intro core
    have hstep : (handle C core (received (.notif (.holdingsRemoved gone)))).core.holdings[domain]?
        = if gone = domain then none else core.holdings[domain]? := by
      show (handleNotification (.holdingsRemoved gone) { core := core }).core.holdings[domain]? = _
      simp only [handleNotification]
      by_cases hstored : core.holdings.contains gone = true
      · rw [if_pos hstored]
        exact getElem?_erase_string _ _ _
      · -- a domain that is not stored is left as it is, which is absent
        rw [if_neg hstored]
        by_cases h : gone = domain
        · rw [if_pos h, ← h]
          exact Std.TreeMap.getElem?_eq_none fun hmem =>
            hstored (Std.TreeMap.contains_iff_mem.mpr hmem)
        · rw [if_neg h]
    have hcons := ih (handle C core (received (.notif (.holdingsRemoved gone)))).core
    rw [hstep] at hcons
    refine Eq.trans hcons ?_
    by_cases hmem : domain ∈ domains
    · simp [hmem]
    · by_cases heq : gone = domain
      · simp [heq]
      · simp [hmem, heq, Ne.symm heq]

theorem holdings_updates (domain : String) (reports : List HoldingsReport) :
    ∀ core : WalletConnectCore, (coreAfter C core (reports.map fun report =>
      received (.notif (.holdingsUpdated report)))).holdings[domain]?
        = latest (updates domain) core.holdings[domain]? reports := by
  induction reports with
  | nil => exact fun core => rfl
  | cons report reports ih =>
    intro core
    have hstep :
        (handle C core (received (.notif (.holdingsUpdated report)))).core.holdings[domain]?
          = (updates domain report).getD core.holdings[domain]? := by
      show (handleNotification (.holdingsUpdated report) { core := core }).core.holdings[domain]?
        = _
      simp only [handleNotification]
      unfold updates
      by_cases hempty : report.holdings.isEmpty = true
      · rw [if_pos hempty, if_pos hempty]
        refine (getElem?_erase_string _ _ _).trans ?_
        by_cases h : report.domain = domain <;> simp [h]
      · rw [if_neg hempty, if_neg hempty]
        refine (getElem?_insert_string _ _ _ _).trans ?_
        by_cases h : report.domain = domain <;> simp [h]
    have hcons := ih (handle C core (received (.notif (.holdingsUpdated report)))).core
    rw [hstep] at hcons
    rw [latest_cons]
    exact hcons

/-- Handed in as notifications, the reports leave what they restate, whatever was stored. -/
theorem holdings_asNotifications (core : WalletConnectCore) (reports : List HoldingsReport)
    (domain : String) :
    (coreAfter C core (asNotifications core.holdings reports)).holdings[domain]?
      = restated reports domain := by
  unfold asNotifications
  rw [coreAfter_append, holdings_updates, holdings_removals, cleared_eq_unlessOmitted,
    latest_updates]
  unfold unlessOmitted restated
  by_cases hlisted : lastReport reports domain = none
  · rw [if_pos hlisted, if_pos hlisted, hlisted]
    rfl
  · rw [if_neg hlisted]

/-! ## What a login leaves -/

/-- A login leaves the domains whose last report is not empty, each with that report; its effects
draw the new holdings on any screen that shows the old ones; and the same reports handed in as
notifications leave the same. -/
structure LoginRestatesHoldings (core : WalletConnectCore) (id : ReqId) (resp : LoginResp) :
    Prop where
  entries : ∀ domain : String,
    (handle C core (received (.resp id (.login resp)))).core.holdings[domain]?
      = restated resp.holdings domain
  drawn : ∀ v : HostView, (∀ domain : String, v.holdings[domain]? = core.holdings[domain]?) →
    ∀ domain : String, ((handle C core (received (.resp id (.login resp)))).effects.foldl
        HostView.onEffect v).holdings[domain]?
      = (handle C core (received (.resp id (.login resp)))).core.holdings[domain]?
  notified : ∀ domain : String,
    (handle C core (received (.resp id (.login resp)))).core.holdings[domain]?
      = (coreAfter C core (asNotifications core.holdings resp.holdings)).holdings[domain]?

/-- An empty last report of a domain has nothing to clear: the domain is not stored, and no report
of it in the list holds anything. -/
def NothingToClear (stored : Std.TreeMap String HoldingsReport) (reports : List HoldingsReport) :
    Prop :=
  ∀ domain report, lastReport reports domain = some report → report.holdings.isEmpty = true →
    stored[domain]? = none ∧
      ∀ other ∈ reports, other.domain = domain → other.holdings.isEmpty = true

/-- The entry left for a domain is the restated one unless an empty last report had something to
clear. -/
theorem snapshot_eq_restated_iff (stored : Std.TreeMap String HoldingsReport)
    (reports : List HoldingsReport) (domain : String) :
    (holdingsSnapshot stored reports).1[domain]? = restated reports domain ↔
      ∀ report, lastReport reports domain = some report → report.holdings.isEmpty = true →
        stored[domain]? = none ∧
          ∀ other ∈ reports, other.domain = domain → other.holdings.isEmpty = true := by
  rw [getElem?_holdingsSnapshot]
  unfold restated unlessOmitted
  cases hlast : lastReport reports domain with
  | none =>
    -- nothing is said of the domain, and it was cleared
    have hsilent := (lastReport_eq_none_iff reports domain).mp hlast
    have hnone : latest (restates domain) none reports = none :=
      (latest_restates_eq_none_iff domain none reports).mpr
        ⟨rfl, fun report hreport hdomain => absurd hdomain (hsilent report hreport)⟩
    simp [hnone]
  | some report =>
    rw [if_neg (by simp)]
    by_cases hempty : report.holdings.isEmpty = true
    · have hfilter : (some report).filter (fun report : HoldingsReport => !report.holdings.isEmpty)
          = none := by simp [Option.filter, hempty]
      rw [hfilter, latest_restates_eq_none_iff]
      constructor
      · intro h other hother _
        exact h
      · intro h
        exact h report rfl hempty
    · have hfull : report.holdings.isEmpty = false := by simpa using hempty
      rw [latest_restates_of_last hlast hfull]
      constructor
      · intro _ other hother hother'
        rw [← Option.some.inj hother, hfull] at hother'
        exact absurd hother' (by simp)
      · intro _
        simp [Option.filter, hfull]

/-- A login restates the holdings exactly when no empty last report had something to clear. -/
theorem loginRestatesHoldings_iff (core : WalletConnectCore) (id : ReqId) (resp : LoginResp) :
    LoginRestatesHoldings C core id resp ↔ NothingToClear core.holdings resp.holdings := by
  have hcore : (handle C core (received (.resp id (.login resp)))).core.holdings
      = (holdingsSnapshot core.holdings resp.holdings).1 := by
    rw [handle_login C core id resp]
  constructor
  · intro h domain
    apply (snapshot_eq_restated_iff core.holdings resp.holdings domain).mp
    rw [← hcore]
    exact h.entries domain
  · intro h
    have hentries : ∀ domain,
        (handle C core (received (.resp id (.login resp)))).core.holdings[domain]?
          = restated resp.holdings domain := by
      intro domain
      rw [hcore]
      exact (snapshot_eq_restated_iff core.holdings resp.holdings domain).mpr (h domain)
    refine ⟨hentries, ?_, ?_⟩
    · intro v hv domain
      have hdrawn : (((handle C core (received (.resp id (.login resp)))).effects.foldl
          HostView.onEffect core.view)).holdings[domain]?
            = (handle C core (received (.resp id (.login resp)))).core.holdings[domain]? := by
        rw [drawn_login C core id resp]
        rfl
      rw [← hdrawn, getElem?_foldl_onEffect, getElem?_foldl_onEffect, hv domain]
      rfl
    · intro domain
      rw [hentries, holdings_asNotifications]

end Login

/-! ## A login that leaves a stale figure -/

/-- A margin balance, as a relying party reports it. -/
def marginReport : HoldingsReport where
  domain := "paper.swaption.io"
  holdings := [⟨"Margin balance", "balance", none, "USDt", 999417000000, 8⟩]
  asOf := 1788619197000

/-- A core that was told of the balance. -/
def marginCore : WalletConnectCore :=
  coreAfter .hashOnly (.new (.replicate 16 0) "descriptor" ⟨.replicate 32 1⟩)
    [received (.notif (.holdingsUpdated marginReport))]

/-- The balance outlives a login whose report for its domain is empty. -/
theorem emptyReport_leaves_stale_holdings :
    ¬ LoginRestatesHoldings .hashOnly marginCore 0
      { holdings := [{ marginReport with holdings := [] }] } := by
  intro h
  have hempty := h.entries "paper.swaption.io"
  rw [handle_login] at hempty
  have hstored : marginCore.holdings["paper.swaption.io"]? = some marginReport := by
    show ((∅ : Std.TreeMap String HoldingsReport).insert "paper.swaption.io" marginReport)[
      "paper.swaption.io"]? = _
    rw [getElem?_insert_string, if_pos rfl]
  have hkept := (snapshot_eq_restated_iff marginCore.holdings _ "paper.swaption.io").mp hempty
    { marginReport with holdings := [] } rfl rfl
  rw [hstored] at hkept
  exact absurd hkept.1 (by simp)

end LcWalletCore.Connect
