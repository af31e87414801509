import Mathlib
import PayChannel.Proofs.Registry.Conservation
import PayChannel.Proofs.Registry.Writes

/-!
# Closing what is due, party by party

A channel that is due can be closed by its sender, by its receiver, or by a sweep.  Who is first and
what has been closed before makes no difference: closings of different pairs commute, also where two
of them refund one sender, and a channel that has gone is not found by the next caller.

* `close_comm`, `closeAll_perm`    the order of closings is free, but for the log;
* `nodup_expiredEnds`, `not_due_closeAll`    what is due, every pair once, is not due any more;
* `closeExpiredEach`    one caller after the other, with `closeExpiredEach_eq_closeAll`;
* `closeExpiredEach_eq_sweep`    callers who have a part in all that is due do what a sweep does.
-/

set_option linter.unusedSectionVars false

namespace PayChannel.Registry

/-! ## The order of closings -/

theorem unlocked_assign_comm (locked : Table Account Amount) (a b : Account) (x y : Amount) :
    let locked' := locked.assign a (unlocked (locked.get? a) x)
    let locked'' := locked.assign b (unlocked (locked.get? b) y)
    locked'.assign b (unlocked (locked'.get? b) y)
      = locked''.assign a (unlocked (locked''.get? a) x) := by
  dsimp only
  by_cases hab : a = b
  · subst hab
    rw [Table.assign_assign, Table.assign_assign, Table.get?_assign, Table.get?_assign, if_pos rfl,
      if_pos rfl, unlocked_comm]
  · rw [Table.get?_assign_of_ne _ _ (Ne.symm hab), Table.get?_assign_of_ne _ _ hab,
      Table.assign_comm _ hab]

section
variable {L : Type} [Ledger L] {q r : Registry L}

theorem close_congr (h : q.unlogged = r.unlogged) (ends : Ends) (now : Height) :
    (q.close ends now).1 = (r.close ends now).1 ∧
      (q.close ends now).2.unlogged = (r.close ends now).2.unlogged := by
  have hq : q.channels.get? ends = r.channels.get? ends := by
    show q.unlogged.channels.get? ends = r.unlogged.channels.get? ends
    rw [h]
  cases hc : r.channels.get? ends with
  | none =>
    rw [close_of_none hc, close_of_none (hq.trans hc)]
    exact ⟨rfl, h⟩
  | some c =>
    rw [close_eq_writes hc, close_eq_writes (hq.trans hc)]
    refine ⟨rfl, ?_⟩
    cases q
    cases r
    cases h
    rfl

theorem closeAll_congr (h : q.unlogged = r.unlogged) (now : Height) (keys : List Ends) :
    (q.closeAll now keys).1 = (r.closeAll now keys).1 ∧
      (q.closeAll now keys).2.unlogged = (r.closeAll now keys).2.unlogged := by
  induction keys generalizing q r with
  | nil => exact ⟨rfl, h⟩
  | cons ends rest ih =>
    obtain ⟨hclosing, hafter⟩ := close_congr h ends now
    obtain ⟨hclosings, hrest⟩ := ih hafter
    rw [closeAll_cons, closeAll_cons, hclosing, hclosings]
    exact ⟨rfl, hrest⟩

theorem closeAll_append (r : Registry L) (now : Height) (keys more : List Ends) :
    r.closeAll now (keys ++ more)
      = ((r.closeAll now keys).1 ++ ((r.closeAll now keys).2.closeAll now more).1,
          ((r.closeAll now keys).2.closeAll now more).2) := by
  induction keys generalizing r with
  | nil => rfl
  | cons ends rest ih =>
    rw [List.cons_append, closeAll_cons, closeAll_cons, ih, List.append_assoc]

end

section
variable {r : Registry BalanceSheet} {now : Height}

theorem close_comm (r : Registry BalanceSheet) {x y : Ends} (h : x ≠ y) (now : Height) :
    ((r.close x now).2.close y now).1 = (r.close y now).1 ∧
      ((r.close x now).2.close y now).2.unlogged = ((r.close y now).2.close x now).2.unlogged := by
  have hx : (r.close y now).2.channels.get? x = r.channels.get? x := by
    rw [get?_channels_close, if_neg h]
  have hy : (r.close x now).2.channels.get? y = r.channels.get? y := by
    rw [get?_channels_close, if_neg (Ne.symm h)]
  cases hc : r.channels.get? x with
  | none =>
    rw [close_of_none hc, close_of_none (hx.trans hc)]
    exact ⟨rfl, rfl⟩
  | some c =>
    cases hd : r.channels.get? y with
    | none =>
      rw [close_of_none hd, close_of_none (hy.trans hd)]
      exact ⟨rfl, rfl⟩
    | some d =>
      rw [close_eq_writes (hy.trans hd), close_eq_writes (hx.trans hc), close_eq_writes hc,
        close_eq_writes hd]
      refine ⟨rfl, ?_⟩
      have hledger : Ledger.credit (Ledger.credit r.ledger c.sender c.balance) d.sender d.balance
          = Ledger.credit (Ledger.credit r.ledger d.sender d.balance) c.sender c.balance :=
        r.ledger.credit_comm _ _ _ _
      have hchannels : (r.channels.erase x).erase y = (r.channels.erase y).erase x :=
        r.channels.assign_comm h none none
      have hsessions : (r.sessions.erase x).erase y = (r.sessions.erase y).erase x :=
        r.sessions.assign_comm h none none
      have hnonces : ∀ m n : Nonce,
          (r.nonces.insert x m).insert y n = (r.nonces.insert y n).insert x m :=
        fun m n => r.nonces.assign_comm h (some m) (some n)
      unfold unlogged
      dsimp only
      rw [hledger, hchannels, hsessions, hnonces, unlocked_assign_comm]

/-- the order of closings is free, but for the log -/
theorem closeAll_perm {keys more : List Ends} (h : keys.Perm more) (r : Registry BalanceSheet)
    (now : Height) :
    (r.closeAll now keys).1.Perm (r.closeAll now more).1 ∧
      (r.closeAll now keys).2.unlogged = (r.closeAll now more).2.unlogged := by
  induction h generalizing r with
  | nil => exact ⟨.refl _, rfl⟩
  | cons key h ih =>
    obtain ⟨hclosings, hafter⟩ := ih (r.close key now).2
    rw [closeAll_cons, closeAll_cons]
    exact ⟨hclosings.append_left _, hafter⟩
  | swap x y rest =>
    by_cases hxy : x = y
    · rw [hxy]
      exact ⟨.refl _, rfl⟩
    · obtain ⟨hx, hafter⟩ := close_comm r hxy now
      obtain ⟨hy, -⟩ := close_comm r (Ne.symm hxy) now
      obtain ⟨hclosings, hrest⟩ := closeAll_congr hafter now rest
      rw [closeAll_cons, closeAll_cons, closeAll_cons, closeAll_cons]
      refine ⟨?_, hrest.symm⟩
      dsimp only
      rw [hx, hy, hclosings]
      exact List.perm_append_comm_assoc _ _ _
  | trans h h' ih ih' =>
    obtain ⟨hclosings, hafter⟩ := ih r
    obtain ⟨hclosings', hafter'⟩ := ih' r
    exact ⟨hclosings.trans hclosings', hafter.trans hafter'⟩

end

/-! ## What is due -/

section
variable {L : Type} [Ledger L] {r : Registry L}

theorem expiredEnds_sublist (hf : r.Filed) (chosen : Channel → Bool) :
    (r.expiredEnds chosen).Sublist r.channels.keys := by
  have hkeys : r.channels.values.map Channel.ends = r.channels.keys := by
    unfold Table.values Table.keys
    rw [List.map_map]
    apply List.map_congr_left
    intro e he
    exact hf _ _ ((Table.get?_eq_some_iff _ _ _).mpr he)
  exact hkeys ▸ List.Sublist.map _ List.filter_sublist

theorem nodup_expiredEnds (hf : r.Filed) (chosen : Channel → Bool) :
    (r.expiredEnds chosen).Nodup :=
  (r.channels.keys_sorted.imp fun h => ByteKey.ne_of_before h).sublist (expiredEnds_sublist hf chosen)

theorem expiredEnds_eq_nil (hf : r.Filed) {chosen : Channel → Bool}
    (h : ∀ ends c, r.channels.get? ends = some c → chosen c = true → c.isExpired r.height = false) :
    r.expiredEnds chosen = [] := by
  apply List.eq_nil_iff_forall_not_mem.mpr
  intro ends hmem
  obtain ⟨c, hc, hchosen, hdue⟩ := (mem_expiredEnds hf _ _).mp hmem
  rw [h ends c hc hchosen] at hdue
  cases hdue

theorem not_due_closeAll (hf : r.Filed) {chosen : Channel → Bool} {ends : Ends} {c : Channel}
    (hc : (r.closeAll r.height (r.expiredEnds chosen)).2.channels.get? ends = some c)
    (hchosen : chosen c = true) : c.isExpired r.height = false := by
  rw [get?_channels_closeAll] at hc
  by_cases hmem : ends ∈ r.expiredEnds chosen
  · rw [if_pos hmem] at hc
    cases hc
  · rw [if_neg hmem] at hc
    apply Bool.eq_false_iff.mpr
    exact fun hdue => hmem ((mem_expiredEnds hf _ _).mpr ⟨c, hc, hchosen, hdue⟩)

theorem ends_closeAll_sublist (hf : r.Filed) (now : Height) (keys : List Ends) :
    ((r.closeAll now keys).1.map Closing.ends).Sublist keys := by
  induction keys generalizing r with
  | nil => exact .slnil
  | cons key rest ih =>
    have hrest := ih (filed_close hf key now)
    rw [closeAll_cons]
    cases hc : r.channels.get? key with
    | none =>
      rw [close_of_none hc] at hrest ⊢
      exact hrest.cons key
    | some c =>
      have hends : (closingOf c now).ends = key := hf key c hc
      rw [(close_of_get? hc now).1, Option.toList_some, List.singleton_append, List.map_cons, hends]
      exact hrest.cons_cons key

end

theorem height_closeAll (r : Registry BalanceSheet) (now : Height) (keys : List Ends) :
    (r.closeAll now keys).2.height = r.height := by
  apply closeAll_keeps (P := fun q => q.height = r.height)
  · intro q ends c hq hc
    rw [close_eq_writes hc]
    exact hq
  · rfl

/-! ## Party by party -/

/-- closes what is due with one account after the other as the caller -/
def closeExpiredEach {L : Type} [Ledger L] (r : Registry L) :
    List Account → List Closing × Registry L
  | [] => ([], r)
  | caller :: rest =>
    ((r.closeExpired caller).1 ++ ((r.closeExpired caller).2.closeExpiredEach rest).1,
      ((r.closeExpired caller).2.closeExpiredEach rest).2)

section
variable {r : Registry BalanceSheet}

/-- what is due for a caller, and what is left then for the others, is what is due for all -/
theorem expiredEnds_perm (hf : r.Filed) (caller : Account) (rest : List Account) :
    let first := r.expiredEnds fun c => c.hasParty caller
    let q := (r.closeAll r.height first).2
    (first ++ q.expiredEnds fun c => rest.any c.hasParty).Perm
      (r.expiredEnds fun c => (caller :: rest).any c.hasParty) := by
  intro first q
  have hq : q.Filed := filed_closeAll hf _ _
  have hheight : q.height = r.height := height_closeAll r _ _
  have hleft : ∀ ends c, q.channels.get? ends = some c →
      ends ∉ first ∧ r.channels.get? ends = some c := by
    intro ends c hc
    rw [get?_channels_closeAll] at hc
    by_cases hmem : ends ∈ first
    · rw [if_pos hmem] at hc
      cases hc
    · rw [if_neg hmem] at hc
      exact ⟨hmem, hc⟩
  rw [List.perm_ext_iff_of_nodup]
  · intro ends
    rw [List.mem_append, mem_expiredEnds hq,
      mem_expiredEnds hf fun c => (caller :: rest).any c.hasParty, hheight]
    constructor
    · rintro (hfirst | ⟨c, hc, hparty, hdue⟩)
      · obtain ⟨c, hc, hparty, hdue⟩ := (mem_expiredEnds hf _ _).mp hfirst
        exact ⟨c, hc, by rw [List.any_cons, hparty, Bool.true_or], hdue⟩
      · exact ⟨c, (hleft _ c hc).2, by rw [List.any_cons, hparty, Bool.or_true], hdue⟩
    · rintro ⟨c, hc, hparty, hdue⟩
      by_cases hfirst : ends ∈ first
      · exact .inl hfirst
      · right
        rw [get?_channels_closeAll, if_neg hfirst]
        refine ⟨c, hc, ?_, hdue⟩
        rw [List.any_cons, Bool.or_eq_true] at hparty
        refine hparty.resolve_left fun hcaller => hfirst ?_
        exact (mem_expiredEnds hf _ _).mpr ⟨c, hc, hcaller, hdue⟩
  · refine List.nodup_append.mpr ⟨nodup_expiredEnds hf _, nodup_expiredEnds hq _, ?_⟩
    rintro x hx y hy rfl
    obtain ⟨c, hc, -⟩ := (mem_expiredEnds hq _ _).mp hy
    exact (hleft _ c hc).1 hx
  · exact nodup_expiredEnds hf _

/-- callers one after the other close what any of them has a part in -/
theorem closeExpiredEach_eq_closeAll (hf : r.Filed) (callers : List Account) :
    let due := r.expiredEnds fun c => callers.any c.hasParty
    (r.closeExpiredEach callers).1.Perm (r.closeAll r.height due).1 ∧
      (r.closeExpiredEach callers).2.unlogged = (r.closeAll r.height due).2.unlogged := by
  induction callers generalizing r with
  | nil =>
    have hnone : (r.expiredEnds fun c => ([] : List Account).any c.hasParty) = [] := by
      simp [expiredEnds]
    dsimp only
    rw [hnone]
    exact ⟨.refl _, rfl⟩
  | cons caller rest ih =>
    intro due
    obtain ⟨hclosings, hafter⟩ := closeAll_perm (expiredEnds_perm hf caller rest) r r.height
    obtain ⟨hclosings', hafter'⟩ :=
      ih (r := (r.closeExpired caller).2) (filed_closeAll hf _ _)
    have hheight : (r.closeExpired caller).2.height = r.height := height_closeAll r _ _
    rw [hheight] at hclosings' hafter'
    rw [closeAll_append] at hclosings hafter
    exact ⟨(hclosings'.append_left _).trans hclosings, hafter'.trans hafter⟩

end

/-- callers who between them have a part in every channel that is due, one after the other, close
what a sweep closes, each channel once, and leave all as a sweep does, but for the log -/
theorem closeExpiredEach_eq_sweep {β : Type} (S : SignatureScheme)
    (change : β → BalanceSheet → BalanceSheet) (sheet : BalanceSheet) (moves : List (Move β))
    (callers : List Account) :
    let r := (ofLedger sheet).after S change moves
    (∀ ends c, r.channels.get? ends = some c → c.isExpired r.height = true →
      c.sender ∈ callers ∨ c.receiver ∈ callers) →
    (r.closeExpiredEach callers).1.Perm r.sweep.1 ∧
      ((r.closeExpiredEach callers).1.map Closing.ends).Nodup ∧
      (r.closeExpiredEach callers).2.unlogged = r.sweep.2.unlogged := by
  intro r hcover
  have hf : r.Filed :=
    run_induction S change (P := fun _ r => r.Filed) (filed_ofLedger sheet)
      (fun _ _ operation hf => filed_perform S hf operation) (fun _ _ _ hf => hf) moves
  have hdue : (r.expiredEnds fun c => callers.any c.hasParty).Perm (r.expiredEnds fun _ => true) := by
    rw [List.perm_ext_iff_of_nodup (nodup_expiredEnds hf _) (nodup_expiredEnds hf _)]
    intro ends
    rw [mem_expiredEnds hf, mem_expiredEnds hf]
    constructor
    · rintro ⟨c, hc, -, hdue⟩
      exact ⟨c, hc, rfl, hdue⟩
    · rintro ⟨c, hc, -, hdue⟩
      refine ⟨c, hc, List.any_eq_true.mpr ?_, hdue⟩
      rcases hcover ends c hc hdue with hsender | hreceiver
      · exact ⟨c.sender, hsender, by simp [Channel.hasParty]⟩
      · exact ⟨c.receiver, hreceiver, by simp [Channel.hasParty]⟩
  obtain ⟨hclosings, hafter⟩ := closeExpiredEach_eq_closeAll hf callers
  obtain ⟨hclosings', hafter'⟩ := closeAll_perm hdue r r.height
  have hswept := hclosings.trans hclosings'
  refine ⟨hswept, ?_, hafter.trans hafter'⟩
  have hnodup : (r.sweep.1.map Closing.ends).Nodup :=
    (nodup_expiredEnds hf _).sublist (ends_closeAll_sublist hf _ _)
  exact (hswept.map Closing.ends).nodup_iff.mpr hnodup

/-- three channels are due, two of them from one sender; the account that receives from two of them
comes first and once more at the end, and so the channel a sweep begins with is closed last -/
theorem closeExpiredEach_eq_sweep_twice :
    let scheme : SignatureScheme := ⟨fun _ => .repeated 0, fun _ _ => List.replicate 64 0,
      fun _ _ _ => true, fun _ _ => List.length_replicate⟩
    let a : Account := .repeated 1
    let b : Account := .repeated 2
    let c : Account := .repeated 3
    let opening (sender receiver : Account) : Move Passage :=
      .ask (.openChannel sender receiver ⟨30, by decide⟩ ⟨10, by decide⟩)
    let moves : List (Move Passage) :=
      [opening a b, opening a c, opening b c, .elapse (.advance ⟨10, by decide⟩)]
    let sheet := BalanceSheet.ofList [(a, ⟨100, by decide⟩), (b, ⟨100, by decide⟩)]
    let callers := [c, b, c]
    let r := (ofLedger sheet).after scheme BalanceSheet.pass moves
    (∀ ends d, r.channels.get? ends = some d → d.isExpired r.height = true →
      d.sender ∈ callers ∨ d.receiver ∈ callers) ∧
      (r.closeExpiredEach callers).1.length = 3 ∧
      (r.closeExpiredEach callers).1 ≠ r.sweep.1 ∧
      (r.closeExpiredEach callers).1.Perm r.sweep.1 ∧
      (r.closeExpiredEach callers).2.unlogged = r.sweep.2.unlogged := by
  intro scheme a b c opening moves sheet callers r
  have hrun : (∀ e ∈ r.channels.entries, e.2.sender ∈ callers ∨ e.2.receiver ∈ callers) ∧
      (r.closeExpiredEach callers).1.length = 3 ∧
      (r.closeExpiredEach callers).1 ≠ r.sweep.1 := by decide +kernel
  have hcover : ∀ ends d, r.channels.get? ends = some d → d.isExpired r.height = true →
      d.sender ∈ callers ∨ d.receiver ∈ callers :=
    fun ends d hd _ => hrun.1 (ends, d) ((Table.get?_eq_some_iff _ _ _).mp hd)
  obtain ⟨hclosings, -, hafter⟩ :=
    closeExpiredEach_eq_sweep scheme BalanceSheet.pass sheet moves callers hcover
  exact ⟨hcover, hrun.2.1, hrun.2.2, hclosings, hafter⟩

end PayChannel.Registry
