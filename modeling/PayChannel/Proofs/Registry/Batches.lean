import Mathlib
import PayChannel.Proofs.Registry.Conservation
import PayChannel.Proofs.Registry.Generations

/-!
# Vouchers submitted one after the other

A receiver hands in the vouchers of a sender, in any order and some perhaps twice.  A voucher is
worth its amount if its session is past the mark of the channel and past the sessions of all vouchers
before it; the others are stale and lost.  As long as the amounts together fit in the channel, nothing
else can stand in the way.

* `claimEach`    the answers to vouchers that are handed in one after the other;
* `Claimable`    a live channel that still covers an amount, in books that balance;
* `claimVoucher_signed`    what one voucher does;
* `claimEach_signed`, `vouchers_redeemed`    what all of them do.
-/

set_option linter.unusedSectionVars false

namespace PayChannel

namespace Registry

def paidOut : Except Refusal Receipt → Nat
  | .ok receipt => receipt.amount.val
  | .error _ => 0

variable {L : Type} [Ledger L]

/-- the answers to vouchers that are handed in one after the other, and the registry at the end -/
def claimEach (S : SignatureScheme) (r : Registry L) (ends : Ends) :
    List Voucher → List (Except Refusal Receipt) × Registry L
  | [] => ([], r)
  | voucher :: rest =>
    let asked := r.claimVoucher S ends.sender ends.receiver voucher
    let others := claimEach S asked.2 ends rest
    (asked.1 :: others.1, others.2)

theorem claimEach_append (S : SignatureScheme) (r : Registry L) (ends : Ends)
    (vouchers more : List Voucher) :
    r.claimEach S ends (vouchers ++ more)
      = ((r.claimEach S ends vouchers).1
          ++ ((r.claimEach S ends vouchers).2.claimEach S ends more).1,
        ((r.claimEach S ends vouchers).2.claimEach S ends more).2) := by
  induction vouchers generalizing r with
  | nil => rfl
  | cons voucher rest ih =>
    rw [List.cons_append, claimEach, ih]
    rfl

theorem length_claimEach (S : SignatureScheme) (r : Registry L) (ends : Ends)
    (vouchers : List Voucher) : (r.claimEach S ends vouchers).1.length = vouchers.length := by
  induction vouchers generalizing r with
  | nil => rfl
  | cons voucher rest ih => exact congrArg (· + 1) (ih _)

theorem foldl_maxOf_lt_iff (mark sessionId : SessionId) (earlier : List SessionId) :
    earlier.foldl Word.maxOf mark < sessionId
      ↔ mark < sessionId ∧ ∀ x ∈ earlier, x < sessionId := by
  induction earlier generalizing mark with
  | nil => simp
  | cons x rest ih =>
    have hmax : mark.maxOf x < sessionId ↔ mark < sessionId ∧ x < sessionId := by
      show (mark.maxOf x).val < sessionId.val ↔ mark.val < sessionId.val ∧ x.val < sessionId.val
      rw [Word.val_maxOf]
      exact Nat.max_lt
    rw [List.foldl_cons, ih, hmax, List.forall_mem_cons, and_assoc]

/-! ## One voucher -/

/-- an amount has gone from a channel to its receiver -/
structure Cashed (ends : Ends) (r r' : Registry BalanceSheet) (amount : Nat) : Prop where
  free : (r'.ledger.free ends.receiver).val = (r.ledger.free ends.receiver).val + amount
  channel : ∀ c, r.channels.get? ends = some c →
    ∃ balance, r'.channels.get? ends = some { c with balance } ∧
      balance.val + amount = c.balance.val
  locked : (r'.totalLocked ends.sender).val + amount = (r.totalLocked ends.sender).val

/-- a live channel that still covers an amount, in books that balance -/
structure Claimable (supply : Nat) (ends : Ends) (nonce : Nonce) (amount : Nat)
    (r : Registry BalanceSheet) : Prop where
  balanced : Balanced supply r
  channel : ∃ c, r.channels.get? ends = some c ∧ c.isExpired r.height = false ∧ c.nonce = nonce ∧
    amount ≤ c.balance.val

section
variable {r q r' : Registry BalanceSheet} {ends : Ends} {x y supply : Nat}

theorem Cashed.refl (ends : Ends) (r : Registry BalanceSheet) : Cashed ends r r 0 :=
  ⟨rfl, fun c hc => ⟨c.balance, hc, rfl⟩, rfl⟩

theorem Cashed.trans (h : Cashed ends r q x) (h' : Cashed ends q r' y) :
    Cashed ends r r' (x + y) := by
  refine ⟨?_, fun c hc => ?_, ?_⟩
  · rw [h'.free, h.free, Nat.add_assoc]
  · obtain ⟨balance, hq, hbalance⟩ := h.channel c hc
    obtain ⟨rest, hr', hrest⟩ := h'.channel _ hq
    dsimp only at hrest
    exact ⟨rest, hr', by omega⟩
  · have hone := h.locked
    have htwo := h'.locked
    omega

variable {S : SignatureScheme} {sender receiver : Account} {sessionId : SessionId}
  {amount : Amount} {signature : Bytes} {c : Channel}

theorem claim_of_stale (hc : r.channels.get? ⟨sender, receiver⟩ = some c)
    (hlive : c.isExpired r.height = false)
    (hv : S.verifyVoucher sender receiver c.nonce sessionId amount signature = true)
    (hstale : sessionId ≤ r.lastSession ⟨sender, receiver⟩) :
    r.claim S sender receiver sessionId amount signature = (.error .staleSession, r) := by
  simp [claim, hc, hlive, hv, hstale]

theorem claim_of_fresh (hc : r.channels.get? ⟨sender, receiver⟩ = some c)
    (hlive : c.isExpired r.height = false)
    (hv : S.verifyVoucher sender receiver c.nonce sessionId amount signature = true)
    (hfresh : r.lastSession ⟨sender, receiver⟩ < sessionId)
    (hcovered : amount.val ≤ c.balance.val) :
    ∃ receipt r', r.claim S sender receiver sessionId amount signature = (.ok receipt, r') ∧
      Redeemed S r sender receiver sessionId amount signature c receipt r' := by
  have hnot : ¬ sessionId ≤ r.lastSession ⟨sender, receiver⟩ := Nat.not_le_of_lt hfresh
  have hrest : c.balance.checkedSub? amount = some (c.balance.satSub amount) := if_pos hcovered
  rcases r.claim_cases S sender receiver sessionId amount signature with
    ⟨refusal, h⟩ | ⟨c', receipt, r', h, hred⟩
  · simp [claim, hc, hlive, hv, hnot, hrest] at h
  · obtain rfl : c' = c := Option.some.inj (hred.found.symm.trans hc)
    exact ⟨receipt, r', h, hred⟩

theorem cashed_redeemed (hfit : supply < 2 ^ 128) (hb : Balanced supply r) {receipt : Receipt}
    (h : Redeemed S r sender receiver sessionId amount signature c receipt r') :
    Cashed ⟨sender, receiver⟩ r r' amount.val := by
  have hcovered := h.covered
  have hown := r.free_add_balance_le receiver ⟨sender, receiver⟩
  have hlocked := unlock_difference hb.filed hb.backed h.found
  have hledger : r'.ledger = r.ledger.credit receiver amount := h.ledger
  rw [balanceAt_of_get? h.found, hb.worth] at hown
  refine ⟨?_, fun d hd => ?_, ?_⟩
  · rw [hledger, r.ledger.val_free_credit receiver receiver amount (by omega), if_pos rfl]
  · obtain rfl : c = d := Option.some.inj (h.found.symm.trans hd)
    refine ⟨c.balance.satSub amount, ?_, ?_⟩
    · rw [h.channels, Table.get?_insert, if_pos rfl]
    · rw [Word.val_satSub]
      omega
  · rw [h.totalLocked, if_pos rfl, Word.val_satSub]
    dsimp only at hlocked ⊢
    omega

end

section
variable {supply x : Nat} {nonce : Nonce} {S : SignatureScheme} {secret : Secret}
  {receiver : Account} {r : Registry BalanceSheet}

/-- a signed voucher that the channel covers is redeemed if it is past the mark, and is stale
otherwise; either way the mark is then the larger of the two, and the channel covers the rest -/
theorem claimVoucher_signed (hsound : S.Sound) (hfit : supply < 2 ^ 128)
    {amount : Amount}
    (h : Claimable supply ⟨S.account secret, receiver⟩ nonce (amount.val + x) r)
    (sessionId : SessionId) :
    let ends : Ends := ⟨S.account secret, receiver⟩
    let asked := r.claimVoucher S ends.sender ends.receiver
      (S.voucher secret receiver nonce sessionId amount)
    (if r.lastSession ends < sessionId
      then asked.1 = .ok ⟨ends.sender, receiver, sessionId, amount, asked.2.balanceAt ends⟩
      else asked = (.error .staleSession, r)) ∧
    Claimable supply ends nonce x asked.2 ∧
    Cashed ends r asked.2 (paidOut asked.1) ∧
    asked.2.lastSession ends = (r.lastSession ends).maxOf sessionId := by
  intro ends asked
  obtain ⟨c, hc, hlive, rfl, hcovers⟩ := h.channel
  have hv : S.verifyVoucher ends.sender ends.receiver c.nonce sessionId amount
      (S.signVoucher secret receiver c.nonce sessionId amount) = true := hsound secret _
  by_cases hfresh : r.lastSession ends < sessionId
  · obtain ⟨receipt, r', hclaim, hred⟩ := claim_of_fresh hc hlive hv hfresh (by omega)
    have hasked : asked = (.ok receipt, r') := hclaim
    have hchannel : r'.channels.get? ends
        = some { c with balance := c.balance.satSub amount } := by
      rw [hred.channels, Table.get?_insert, if_pos rfl]
    have hbalanced : Balanced supply r' := by
      have hstep := balanced_perform S hfit h.balanced (.claim ends.sender ends.receiver sessionId
        amount (S.signVoucher secret receiver c.nonce sessionId amount))
      rw [perform, hclaim] at hstep
      exact hstep
    have hheight : r'.height = r.height := by
      unfold height
      rw [hred.ledger]
      rfl
    have hreceipt := hred.receipt_eq
    rw [if_pos hfresh, hasked, hreceipt]
    refine ⟨?_, ⟨hbalanced, _, hchannel, ?_, rfl, ?_⟩, cashed_redeemed hfit h.balanced hred, ?_⟩
    · rw [balanceAt_of_get? hchannel]
    · rw [hheight]
      exact hlive
    · rw [Word.val_satSub]
      omega
    · rw [hred.lastSession, if_pos rfl]
      apply Word.ext
      rw [Word.val_maxOf]
      exact (Nat.max_eq_right (Nat.le_of_lt hfresh)).symm
  · have hstale : sessionId ≤ r.lastSession ends := Nat.le_of_not_lt hfresh
    have hasked : asked = (.error .staleSession, r) := claim_of_stale hc hlive hv hstale
    rw [if_neg hfresh, hasked]
    refine ⟨rfl, ⟨h.balanced, c, hc, hlive, rfl, by omega⟩, Cashed.refl ends r, ?_⟩
    apply Word.ext
    rw [Word.val_maxOf]
    exact (Nat.max_eq_left hstale).symm

/-! ## All vouchers -/

/-- signed vouchers that the channel covers together leave the largest session as its mark, and have
brought the receiver what the answers are worth -/
theorem claimEach_signed (hsound : S.Sound) (hfit : supply < 2 ^ 128)
    (payments : List (SessionId × Amount))
    (h : Claimable supply ⟨S.account secret, receiver⟩ nonce
      ((payments.map fun p => p.2.val).sum + x) r) :
    let ends : Ends := ⟨S.account secret, receiver⟩
    let asked := r.claimEach S ends
      (payments.map fun p => S.voucher secret receiver nonce p.1 p.2)
    Claimable supply ends nonce x asked.2 ∧
    Cashed ends r asked.2 (asked.1.map paidOut).sum ∧
    asked.2.lastSession ends = (payments.map Prod.fst).foldl Word.maxOf (r.lastSession ends) := by
  induction payments generalizing r with
  | nil =>
    rw [List.map_nil, List.sum_nil, Nat.zero_add] at h
    exact ⟨h, Cashed.refl _ r, rfl⟩
  | cons p rest ih =>
    rw [List.map_cons, List.sum_cons, Nat.add_assoc] at h
    obtain ⟨-, hclaimable, hcashed, hmark⟩ :=
      claimVoucher_signed hsound hfit h p.1
    obtain ⟨hrest, hothers, hlast⟩ := ih hclaimable
    refine ⟨hrest, hcashed.trans hothers, ?_⟩
    rw [hmark] at hlast
    exact hlast

end

section
variable {β : Type}

/-- however else a sheet changes, as long as all own no more together than an amount holds, books
balance.  While only blocks pass, all own together what they started with (`balanced_after`). -/
theorem balanced_of_prefixes (S : SignatureScheme) (change : β → BalanceSheet → BalanceSheet)
    (sheet : BalanceSheet) (moves : List (Move β))
    (hsupply : ∀ before, before <+: moves →
      ((ofLedger sheet).after S change before).worth < 2 ^ 128) :
    Balanced ((ofLedger sheet).after S change moves).worth
      ((ofLedger sheet).after S change moves) := by
  induction moves using List.reverseRecOn with
  | nil => exact ⟨filed_ofLedger sheet, backed_ofLedger sheet, rfl⟩
  | append_singleton moves move ih =>
    have hbefore := ih fun before hb => hsupply before (hb.trans (List.prefix_append moves [move]))
    rw [after_append]
    cases move with
    | ask operation =>
      have hstep := balanced_perform S (hsupply moves (List.prefix_append moves _)) hbefore operation
      exact ⟨hstep.filed, hstep.backed, rfl⟩
    | elapse b => exact ⟨hbefore.filed, hbefore.backed, rfl⟩

/-- at any time the open channel of a pair has the nonce that is reported for the pair -/
theorem aligned_run (S : SignatureScheme) (change : β → L → L) (ledger : L)
    (moves : List (Move β)) (ends : Ends) :
    Aligned ends ((ofLedger ledger).after S change moves) := by
  have hrun := run_induction S change (P := fun _ r => r.Filed ∧ Aligned ends r)
    ⟨filed_ofLedger ledger, fun _ hc => (nomatch hc), fun _ => rfl⟩
    (fun _ _ operation h =>
      ⟨filed_perform S h.1 operation, aligned_step h.2 (pair_step S h.1 ends operation)⟩)
    (fun _ _ _ h => ⟨h.1, h.2.nonce, h.2.vacant⟩) moves
  exact hrun.2

/-- whatever a registry has been through, as long as all never owned together more than an amount
holds: of vouchers that a sender has signed for a live channel that covers them together, handed in
in any order, exactly those are redeemed whose session is past the mark at the start and past the
sessions of all before them; each other one is stale and changes nothing.  The receiver gets what was
redeemed, the channel and what is locked for the sender shrink by as much, and the mark at the end
is the largest session there was. -/
theorem vouchers_redeemed (S : SignatureScheme) (hsound : S.Sound)
    (change : β → BalanceSheet → BalanceSheet) (sheet : BalanceSheet) (moves : List (Move β))
    (hsupply : ∀ before, before <+: moves →
      ((ofLedger sheet).after S change before).worth < 2 ^ 128)
    (secret : Secret) (receiver : Account) (c : Channel) (payments : List (SessionId × Amount)) :
    let r := (ofLedger sheet).after S change moves
    let ends : Ends := ⟨S.account secret, receiver⟩
    let voucher := fun p : SessionId × Amount =>
      S.voucher secret receiver (r.nextNonce ends) p.1 p.2
    let asked := r.claimEach S ends (payments.map voucher)
    r.channels.get? ends = some c → c.isExpired r.height = false →
    (payments.map fun p => p.2.val).sum ≤ c.balance.val →
    (∀ before p rest, payments = before ++ p :: rest →
      let q := (r.claimEach S ends (before.map voucher)).2
      let one := q.claimVoucher S ends.sender ends.receiver (voucher p)
      asked.1[before.length]? = some one.1 ∧
      if r.lastSession ends < p.1 ∧ ∀ x ∈ before, x.1 < p.1
      then one.1 = .ok ⟨ends.sender, ends.receiver, p.1, p.2, one.2.balanceAt ends⟩
      else one = (.error .staleSession, q)) ∧
    Cashed ends r asked.2 (asked.1.map paidOut).sum ∧
    asked.2.lastSession ends = (payments.map Prod.fst).foldl Word.maxOf (r.lastSession ends) := by
  intro r ends voucher asked hc hlive hcovers
  have hfit : r.worth < 2 ^ 128 := hsupply moves List.prefix_rfl
  have haligned : Aligned ends r := aligned_run S change sheet moves ends
  have hclaimable : Claimable r.worth ends (r.nextNonce ends)
      (payments.map fun p => p.2.val).sum r :=
    ⟨balanced_of_prefixes S change sheet moves hsupply, c, hc, hlive, haligned.nonce c hc, hcovers⟩
  refine ⟨?_, ?_⟩
  · intro before p rest hsplit q one
    rw [hsplit, List.map_append, List.sum_append] at hclaimable
    obtain ⟨hq, -, hmark⟩ := claimEach_signed hsound hfit before hclaimable
    rw [List.map_cons, List.sum_cons] at hq
    obtain ⟨hanswer, -⟩ := claimVoucher_signed hsound hfit hq p.1
    have hpast : q.lastSession ends < p.1
        ↔ r.lastSession ends < p.1 ∧ ∀ x ∈ before, x.1 < p.1 := by
      rw [hmark, foldl_maxOf_lt_iff, List.forall_mem_map]
    refine ⟨?_, ?_⟩
    · show (r.claimEach S ends (payments.map voucher)).1[before.length]? = _
      have hlength : (r.claimEach S ends (before.map voucher)).1.length = before.length := by
        rw [length_claimEach, List.length_map]
      rw [hsplit, List.map_append, claimEach_append,
        List.getElem?_append_right (Nat.le_of_eq hlength), hlength, Nat.sub_self]
      rfl
    · rw [if_congr hpast rfl rfl] at hanswer
      exact hanswer
  · have hall := claimEach_signed (x := 0) hsound hfit payments hclaimable
    exact hall.2

end

/-- four vouchers over a channel with a hundred: the second is behind the first, the third repeats
its session, and the last skips some; so the first and the last are redeemed.  The balance that the
receiver has besides was set from outside while the channel was open. -/
theorem vouchers_redeemed_out_of_order :
    let secret : Secret := ⟨List.replicate 32 1, List.length_replicate⟩
    let ends : Ends := ⟨SignatureScheme.tagging.account secret, .repeated 2⟩
    let sheet := BalanceSheet.ofList [(ends.sender, ⟨150, by decide⟩)]
    let moves : List (Move (BalanceSheet → BalanceSheet)) :=
      [.ask (.openChannel ends.sender ends.receiver ⟨100, by decide⟩ ⟨10, by decide⟩),
        .elapse fun s => (s.advance ⟨3, by decide⟩).setBalance ends.receiver ⟨7, by decide⟩]
    let payments : List (SessionId × Amount) :=
      [(⟨5, by decide⟩, ⟨10, by decide⟩), (⟨3, by decide⟩, ⟨20, by decide⟩),
        (⟨5, by decide⟩, ⟨1, by decide⟩), (⟨9, by decide⟩, ⟨30, by decide⟩)]
    let r := (ofLedger sheet).after .tagging id moves
    let voucher := fun p : SessionId × Amount =>
      SignatureScheme.tagging.voucher secret ends.receiver (r.nextNonce ends) p.1 p.2
    let asked := r.claimEach .tagging ends (payments.map voucher)
    (∀ before ∈ moves.inits, ((ofLedger sheet).after .tagging id before).worth < 2 ^ 128) ∧
      (payments.map fun p => p.2.val).sum ≤ (r.balanceAt ends).val ∧
      asked.1[1]? = some (.error .staleSession) ∧
      (asked.2.ledger.free ends.receiver).val = 47 ∧
      (asked.2.lastSession ends).val = 9 := by
  intro secret ends sheet moves payments r voucher asked
  have hsupply : ∀ before ∈ moves.inits,
      ((ofLedger sheet).after .tagging id before).worth < 2 ^ 128 := by decide +kernel
  let c : Channel := ⟨ends.sender, ends.receiver, ⟨100, by decide⟩, Word.zero, Word.zero,
    ⟨10, by decide⟩⟩
  have hc : r.channels.get? ends = some c := by decide +kernel
  have hcovers : (payments.map fun p => p.2.val).sum ≤ c.balance.val := by decide
  obtain ⟨hone, hcashed, hmark⟩ := vouchers_redeemed .tagging SignatureScheme.sound_tagging id sheet moves
    (fun before hb => hsupply before ((List.mem_inits before moves).mpr hb)) secret ends.receiver c
    payments hc (by decide +kernel) hcovers
  obtain ⟨hanswer, hstale⟩ := hone [(⟨5, by decide⟩, ⟨10, by decide⟩)]
    (⟨3, by decide⟩, ⟨20, by decide⟩) _ rfl
  have hbehind : ¬ ((⟨5, by decide⟩ : SessionId) < ⟨3, by decide⟩) := by decide
  rw [if_neg fun h => hbehind (h.2 _ (List.mem_singleton.mpr rfl))] at hstale
  rw [hstale] at hanswer
  have hsum : (asked.1.map paidOut).sum = 40 := by decide +kernel
  have hfree : (r.ledger.free ends.receiver).val = 7 := by decide +kernel
  have hlast : ((payments.map Prod.fst).foldl Word.maxOf (r.lastSession ends)).val = 9 := by
    decide +kernel
  refine ⟨hsupply, ?_, hanswer, ?_, ?_⟩
  · rw [balanceAt_of_get? hc]
    exact hcovers
  · rw [hcashed.free, hfree, hsum]
  · rw [hmark, hlast]

end Registry
end PayChannel
