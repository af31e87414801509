import Mathlib
import PayChannel.Proofs.Registry.Consistency
import PayChannel.Proofs.Registry.Expiry

/-!
# Operations asked twice

Who gets no answer to an operation may ask for it again, and the registry cannot tell that from a
new wish.  For all operations but one that does no harm: the channel is open already, the session is
claimed already, and what has been closed or taken is gone.  Only a funding is as good as the first.

* `perform_again`    asked again, an operation that is no funding changes nothing;
* `FundedTimes`, `FundedTimes.ask`    a funding that is asked again moves its amount again, as long
  as it is accepted.
-/

set_option linter.unusedSectionVars false

namespace PayChannel.Registry

section
variable {S : SignatureScheme} {r r' : Registry BalanceSheet} {sender receiver : Account}
  {amount : Amount}

theorem height_settleLock {s s' : BalanceSheet} {refund : Amount}
    (h : settleLock s sender amount refund = (true, s')) : s'.height = s.height := by
  obtain ⟨-, hpaid⟩ | ⟨-, -, rfl⟩ := settleLock_cases h
  · have hdebit := s.height_debit sender (amount.satSub refund)
    have hafter : (s.debit sender (amount.satSub refund)).2 = s' := congrArg Prod.snd hpaid
    rwa [hafter] at hdebit
  · rfl

/-- the channel that has been opened is not due yet, so it stands in the way of another one -/
theorem openChannel_again {duration : Height} {channel : Channel}
    (ho : Opened r sender receiver amount duration channel r') :
    (r'.openChannel sender receiver amount duration).2 = r' := by
  rcases r'.openChannel_cases sender receiver amount duration with
    ⟨refusal, h⟩ | ⟨refusal, x, ledger, hd, h⟩ | ⟨channel', r'', h, ho'⟩
  · rw [h]
  · rw [h]
    exact eq_of_refusedDebit hd
  · have hfound : r'.channels.get? ⟨sender, receiver⟩ = some channel := by
      rw [ho.channels, Table.get?_insert_self]
    have hheight : r'.height = r.height := height_settleLock ho.settled
    have hdue := ho'.stale channel hfound
    rw [hheight, Channel.isExpired_iff] at hdue
    have hlater : r.height.val < channel.expiresAt.val := lt_of_expiry ho.expiry
    exact absurd hdue (Nat.not_le.mpr hlater)

/-- the session that has been claimed is the last one, so it is not above it -/
theorem claim_again {sessionId : SessionId} {signature : Bytes} {c : Channel} {receipt : Receipt}
    (hr : Redeemed S r sender receiver sessionId amount signature c receipt r') :
    (r'.claim S sender receiver sessionId amount signature).2 = r' := by
  rcases r'.claim_cases S sender receiver sessionId amount signature with
    ⟨refusal, h⟩ | ⟨c', receipt', r'', h, hr'⟩
  · rw [h]
  · have hlast : r'.lastSession ⟨sender, receiver⟩ = sessionId := by
      rw [hr.lastSession, if_pos rfl]
    have hfresh := hr'.fresh
    rw [hlast] at hfresh
    exact absurd hfresh (Nat.lt_irrefl _)

theorem closeChannel_of_none (h : r.channels.get? ⟨sender, receiver⟩ = none) (caller : Account) :
    (r.closeChannel caller sender receiver).2 = r := by
  rcases r.closeChannel_cases caller sender receiver with
    ⟨refusal, hclose⟩ | ⟨c, closing, r', hclose, -, hclosed⟩
  · rw [hclose]
  · have hfound := hclosed.found
    rw [h] at hfound
    cases hfound

/-- what has been closed because it was due is not found again -/
theorem closeAll_expiredEnds_again (hf : r.Filed) (chosen : Channel → Bool) :
    let r' := (r.closeAll r.height (r.expiredEnds chosen)).2
    r'.closeAll r'.height (r'.expiredEnds chosen) = ([], r') := by
  intro r'
  have hheight : r'.height = r.height := height_closeAll r _ _
  have hnone : r'.expiredEnds chosen = [] := by
    refine expiredEnds_eq_nil (filed_closeAll hf _ _) fun ends c hc hchosen => ?_
    rw [hheight]
    exact not_due_closeAll hf hc hchosen
  rw [hnone]
  rfl

end

/-- asked again, an operation that is no funding changes nothing -/
theorem perform_again (S : SignatureScheme) {r : Registry BalanceSheet} (hf : r.Filed)
    {operation : Operation}
    (h : ∀ sender receiver amount, operation ≠ .addBalance sender receiver amount) :
    ((r.perform S operation).2.perform S operation).2 = (r.perform S operation).2 := by
  obtain ⟨answer, r', hp, hout⟩ := exists_outcome S r operation
  rw [hp]
  dsimp only
  cases hout with
  | refused operation refusal => rw [hp]
  | refusedDebit operation refusal account x ledger hd =>
    have hsame := eq_of_refusedDebit hd
    rw [hsame, hp, hsame]
  | opened sender receiver amount duration channel r' ho => exact openChannel_again ho
  | funded sender receiver amount c channel r' hfunded => exact absurd rfl (h sender receiver amount)
  | redeemed sender receiver sessionId amount signature c receipt r' hr => exact claim_again hr
  | closed caller sender receiver party =>
    refine closeChannel_of_none ?_ caller
    rw [get?_channels_closeAll, if_pos (List.mem_singleton.mpr rfl)]
  | closedExpired caller => exact congrArg Prod.snd (closeAll_expiredEnds_again hf _)
  | swept => exact congrArg Prod.snd (closeAll_expiredEnds_again hf _)
  | tookEvents => rfl
  | drained => rfl

/-! ## Fundings -/

/-- `r'` comes of asking `r` for the same funding `n` times over, and of its acceptance each time -/
structure FundedTimes (r : Registry BalanceSheet) (sender receiver : Account) (amount : Amount)
    (n : Nat) (r' : Registry BalanceSheet) : Prop where
  registry : r' = (fun q => (q.addBalance sender receiver amount).2)^[n] r
  free : (r'.ledger.free sender).val + n * amount.val = (r.ledger.free sender).val
  balance : (r'.balanceAt ⟨sender, receiver⟩).val
    = (r.balanceAt ⟨sender, receiver⟩).val + n * amount.val

section
variable {r q : Registry BalanceSheet} {sender receiver : Account} {amount : Amount} {n : Nat}

theorem FundedTimes.zero (r : Registry BalanceSheet) (sender receiver : Account) (amount : Amount) :
    FundedTimes r sender receiver amount 0 r :=
  ⟨rfl, by rw [Nat.zero_mul, Nat.add_zero], by rw [Nat.zero_mul, Nat.add_zero]⟩

/-- once more, the funding is refused and changes nothing, or it moves its amount once more -/
theorem FundedTimes.ask (h : FundedTimes r sender receiver amount n q) :
    (∃ refusal, q.addBalance sender receiver amount = (.error refusal, q)) ∨
      FundedTimes r sender receiver amount (n + 1) (q.addBalance sender receiver amount).2 := by
  rcases q.addBalance_cases sender receiver amount with
    ⟨refusal, hask⟩ | ⟨refusal, x, ledger, hd, hask⟩ | ⟨c, channel, q', hask, hfunded⟩
  · exact .inl ⟨refusal, hask⟩
  · rw [eq_of_refusedDebit hd] at hask
    exact .inl ⟨refusal, hask⟩
  · right
    have hafter : (q.addBalance sender receiver amount).2 = q' := congrArg Prod.snd hask
    have hfree : (q'.ledger.free sender).val + amount.val = (q.ledger.free sender).val := by
      have hmade : (q.ledger.debit sender amount).1 = true := congrArg Prod.fst hfunded.debited
      have hle := (q.ledger.debit_made_iff sender amount).mp hmade
      have hledger : (q.ledger.debit sender amount).2 = q'.ledger :=
        congrArg Prod.snd hfunded.debited
      have hrest := q.ledger.free_debit sender sender amount hle
      rw [hledger, if_pos rfl] at hrest
      rw [hrest, Word.val_satSub]
      omega
    have hbalance : (q'.balanceAt ⟨sender, receiver⟩).val
        = (q.balanceAt ⟨sender, receiver⟩).val + amount.val := by
      have hchannel : q'.channels.get? ⟨sender, receiver⟩ = some channel := by
        rw [hfunded.channels, Table.get?_insert_self]
      rw [balanceAt_of_get? hchannel, balanceAt_of_get? hfunded.found, hfunded.balance]
    rw [hafter]
    refine ⟨?_, ?_, ?_⟩
    · rw [Function.iterate_succ_apply', ← h.registry, hafter]
    · rw [Nat.succ_mul, ← h.free, ← hfree]
      omega
    · rw [Nat.succ_mul, hbalance, h.balance]
      omega

end

end PayChannel.Registry
