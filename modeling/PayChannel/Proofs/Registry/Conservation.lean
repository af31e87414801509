import Mathlib
import PayChannel.Proofs.Registry.Holdings

/-!
# Money is neither made nor lost

A registry runs over a balance sheet whose balances fit in an amount together; blocks pass, and
nothing else changes the sheet.  Then every account owns what it started with and what it has been
paid, less what it has paid, and no arithmetic on money is ever cut off at an end of its range.

* `Backed`    what a sender has locked is what it has in channels;
* `arithmetic`    the sums and differences on money that an operation forms;
* `exact_perform`    none of them is cut off;
* `funds_conserved`    the law of funds over whole runs.
-/

set_option linter.unusedSectionVars false

namespace PayChannel

inductive Passage where
  | advance (blocks : Height)
  | advanceTo (height : Height)

def BalanceSheet.pass : Passage → BalanceSheet → BalanceSheet
  | .advance blocks, s => s.advance blocks
  | .advanceTo height, s => s.advanceTo height

theorem BalanceSheet.balances_pass (p : Passage) (s : BalanceSheet) :
    (s.pass p).balances = s.balances := by
  cases p with
  | advance blocks => rfl
  | advanceTo height => rfl

/-- an operation on money that stops at an end of the range -/
inductive Saturating where
  | sum (x y : Amount)
  | difference (x y : Amount)

def Saturating.Exact : Saturating → Prop
  | .sum x y => x.val + y.val < 2 ^ 128
  | .difference x y => y.val ≤ x.val

namespace Registry

/-! ## What is locked -/

section
variable {L : Type} [Ledger L]

/-- what a sender has locked is what it has in channels -/
def Backed (r : Registry L) : Prop :=
  ∀ a, (r.totalLocked a).val = r.inChannels a

theorem backed_ofLedger (ledger : L) : (ofLedger ledger).Backed :=
  fun _ => rfl

theorem totalLocked_cleared {r : Registry L} (hf : r.Filed) (ends : Ends) (a : Account) :
    ((r.cleared ends).totalLocked a).val
      = (r.totalLocked a).val - if ends.sender = a then (r.balanceAt ends).val else 0 := by
  cases h : r.channels.get? ends with
  | none =>
    rw [cleared_of_none h, balanceAt_of_none h, Word.val_zero, ite_self, Nat.sub_zero]
  | some c =>
    have hsender : c.sender = ends.sender := congrArg Ends.sender (hf ends c h)
    rw [(cleared_of_get? h).totalLocked a, hsender, balanceAt_of_get? h]
    by_cases hs : ends.sender = a
    · rw [if_pos hs, if_pos hs.symm, hs, Word.val_satSub]
    · rw [if_neg hs, if_neg (Ne.symm hs), Nat.sub_zero]

end

section
variable {r r' : Registry BalanceSheet} {sender receiver : Account} {amount : Amount}

theorem locked_le_worth (hb : r.Backed) (a : Account) :
    (r.ledger.free a).val + (r.totalLocked a).val ≤ r.worth := by
  rw [hb a]
  exact r.wealth_le_worth a

/-- what a sender spends on a channel, on top of what stays locked, is not more than there is -/
theorem lock_sum_opened {duration : Height} {channel : Channel} (hf : r.Filed) (hb : r.Backed)
    (hw : r.worth < 2 ^ 128) (h : Opened r sender receiver amount duration channel r') :
    ((r.cleared ⟨sender, receiver⟩).totalLocked sender).val + amount.val < 2 ^ 128 := by
  have hlocked := totalLocked_cleared hf ⟨sender, receiver⟩ sender
  have hbal := balanceAt_le_inChannels hf ⟨sender, receiver⟩
  have hown := locked_le_worth hb sender
  have hs := (h.settles hf hw).2 sender
  rw [if_pos rfl] at hlocked
  rw [if_pos rfl, if_pos rfl] at hs
  rw [← hb sender] at hbal
  omega

theorem lock_sum_funded {c channel : Channel} (hb : r.Backed) (hw : r.worth < 2 ^ 128)
    (h : Funded r sender receiver amount c channel r') :
    (r.totalLocked sender).val + amount.val < 2 ^ 128 := by
  have hs := BalanceSheet.val_free_debit h.debited sender
  have hown := locked_le_worth hb sender
  rw [if_pos rfl] at hs
  omega

theorem unlock_difference {ends : Ends} {c : Channel} (hf : r.Filed) (hb : r.Backed)
    (hc : r.channels.get? ends = some c) : c.balance.val ≤ (r.totalLocked ends.sender).val := by
  have h := balanceAt_le_inChannels hf ends
  rw [balanceAt_of_get? hc, ← hb] at h
  exact h

theorem backed_opened {duration : Height} {channel : Channel} (hf : r.Filed) (hb : r.Backed)
    (hw : r.worth < 2 ^ 128) (h : Opened r sender receiver amount duration channel r') :
    r'.Backed := by
  intro a
  have hlocked := totalLocked_cleared hf ⟨sender, receiver⟩ a
  have hin := inChannels_insert hf h.ends h.channels a
  have hfit := lock_sum_opened hf hb hw h
  rw [h.totalLocked a]
  rw [h.balance] at hin
  by_cases hs : sender = a
  · have hbal := balanceAt_le_inChannels hf ⟨sender, receiver⟩
    subst hs
    rw [if_pos rfl, Amount.val_satAdd_of_lt hfit, hlocked, if_pos rfl, hb]
    rw [if_pos rfl, if_pos rfl] at hin
    dsimp only at hbal
    omega
  · rw [if_neg (Ne.symm hs), hlocked, if_neg hs, hb]
    rw [if_neg hs, if_neg hs] at hin
    omega

theorem backed_funded {c channel : Channel} (hf : r.Filed) (hb : r.Backed)
    (hw : r.worth < 2 ^ 128) (h : Funded r sender receiver amount c channel r') :
    r'.Backed := by
  intro a
  have hends : channel.ends = ⟨sender, receiver⟩ := by
    rw [h.channel_eq]
    exact hf _ c h.found
  have hin := inChannels_insert hf hends h.channels a
  have hsum := h.balance
  rw [balanceAt_of_get? h.found] at hin
  rw [h.totalLocked a]
  by_cases hs : sender = a
  · subst hs
    rw [if_pos rfl, Amount.val_satAdd_of_lt (lock_sum_funded hb hw h), hb]
    rw [if_pos rfl, if_pos rfl] at hin
    omega
  · rw [if_neg (Ne.symm hs), hb]
    rw [if_neg hs, if_neg hs] at hin
    omega

theorem backed_redeemed {S : SignatureScheme} {sessionId : SessionId} {signature : Bytes}
    {c : Channel} {receipt : Receipt} (hf : r.Filed) (hb : r.Backed)
    (h : Redeemed S r sender receiver sessionId amount signature c receipt r') : r'.Backed := by
  intro a
  have hends : ({ c with balance := c.balance.satSub amount } : Channel).ends
      = ⟨sender, receiver⟩ := hf _ c h.found
  have hin := inChannels_insert hf hends h.channels a
  have hcov := h.covered
  have hbal : (c.balance.satSub amount).val = c.balance.val - amount.val := Word.val_satSub _ _
  rw [balanceAt_of_get? h.found] at hin
  dsimp only at hin
  rw [h.totalLocked a]
  by_cases hs : sender = a
  · subst hs
    have hlocked := unlock_difference hf hb h.found
    rw [if_pos rfl, Word.val_satSub, hb]
    rw [if_pos rfl, if_pos rfl] at hin
    rw [hb] at hlocked
    dsimp only at hlocked
    omega
  · rw [if_neg (Ne.symm hs), hb]
    rw [if_neg hs, if_neg hs] at hin
    omega

theorem backed_close {ends : Ends} {c : Channel} (hf : r.Filed) (hb : r.Backed)
    (hc : r.channels.get? ends = some c) (now : Height) : (r.close ends now).2.Backed := by
  intro a
  obtain ⟨-, -, hret⟩ := close_of_get? hc now
  have hsender : c.sender = ends.sender := congrArg Ends.sender (hf ends c hc)
  have hin := inChannels_erase hf hret.channels a
  rw [balanceAt_of_get? hc] at hin
  rw [hret.totalLocked a, hsender]
  by_cases hs : ends.sender = a
  · subst hs
    rw [if_pos rfl, Word.val_satSub, hb]
    rw [if_pos rfl] at hin
    omega
  · rw [if_neg (Ne.symm hs), hb]
    rw [if_neg hs] at hin
    omega

end

/-! ## What keeps the books -/

/-- every channel is found under its ends, what is locked is in channels, and all own together what
the sheet started with -/
structure Balanced (supply : Nat) (r : Registry BalanceSheet) : Prop where
  filed : r.Filed
  backed : r.Backed
  worth : r.worth = supply

section
variable {supply : Nat} {r : Registry BalanceSheet}

theorem balanced_close (hfit : supply < 2 ^ 128) (h : Balanced supply r) {ends : Ends}
    {c : Channel} (hc : r.channels.get? ends = some c) (now : Height) :
    Balanced supply (r.close ends now).2 := by
  obtain ⟨hw, -⟩ := settled_close h.filed (h.worth ▸ hfit) hc now
  exact ⟨filed_close h.filed ends now, backed_close h.filed h.backed hc now, hw.trans h.worth⟩

theorem balanced_closeAll (hfit : supply < 2 ^ 128) (h : Balanced supply r) (now : Height)
    (keys : List Ends) : Balanced supply (r.closeAll now keys).2 :=
  closeAll_keeps (fun _ _ _ hq hc => balanced_close hfit hq hc now) keys h

theorem balanced_pass (h : Balanced supply r) (p : Passage) :
    Balanced supply { r with ledger := r.ledger.pass p } := by
  have htotal : (r.ledger.pass p).totalIssuance = r.ledger.totalIssuance := by
    unfold BalanceSheet.totalIssuance
    rw [BalanceSheet.balances_pass]
  refine ⟨h.filed, h.backed, ?_⟩
  rw [← h.worth]
  exact congrArg (· + r.allInChannels) htotal

theorem balanced_perform (S : SignatureScheme) (hfit : supply < 2 ^ 128) (h : Balanced supply r)
    (operation : Operation) : Balanced supply (r.perform S operation).2 := by
  have hw : r.worth < 2 ^ 128 := h.worth ▸ hfit
  have hfiled := filed_perform S h.filed operation
  have hset := settled_perform S h.filed hw operation
  obtain ⟨answer, r', hp, hout⟩ := exists_outcome S r operation
  rw [hp] at hfiled hset ⊢
  refine ⟨hfiled, ?_, hset.worth.trans h.worth⟩
  cases hout with
  | refused operation refusal => exact h.backed
  | refusedDebit operation refusal account x ledger hd => exact h.backed
  | opened sender receiver amount duration channel r' ho =>
    exact backed_opened h.filed h.backed hw ho
  | funded sender receiver amount c channel r' hc => exact backed_funded h.filed h.backed hw hc
  | redeemed sender receiver sessionId amount signature c receipt r' hc =>
    exact backed_redeemed h.filed h.backed hc
  | closed caller sender receiver party => exact (balanced_closeAll hfit h _ _).backed
  | closedExpired caller => exact (balanced_closeAll hfit h _ _).backed
  | swept => exact (balanced_closeAll hfit h _ _).backed
  | tookEvents => exact h.backed
  | drained => exact h.backed

/-- while blocks pass and nothing else changes the sheet, books balance -/
theorem balanced_after (S : SignatureScheme) (sheet : BalanceSheet)
    (hfit : sheet.totalIssuance < 2 ^ 128) (moves : List (Move Passage)) :
    Balanced sheet.totalIssuance ((ofLedger sheet).after S BalanceSheet.pass moves) :=
  run_induction S BalanceSheet.pass (P := fun _ r => Balanced sheet.totalIssuance r)
    ⟨filed_ofLedger sheet, backed_ofLedger sheet, rfl⟩
    (fun _ _ operation h => balanced_perform S hfit h operation) (fun _ _ p h => balanced_pass h p)
    moves

end

/-! ## Arithmetic that is never cut off -/

def closeArithmetic (r : Registry BalanceSheet) (ends : Ends) : List Saturating :=
  match r.channels.get? ends with
  | none => []
  | some c =>
    [.difference (r.totalLocked c.sender) c.balance, .sum (r.ledger.free c.sender) c.balance]

def closeAllArithmetic (r : Registry BalanceSheet) (now : Height) : List Ends → List Saturating
  | [] => []
  | ends :: rest => r.closeArithmetic ends ++ closeAllArithmetic (r.close ends now).2 now rest

/-- the arithmetic on free balances, on what can be spent and on what is locked, of an operation
with its answer.  What can be spent is added up before opening may be refused. -/
def arithmetic (r : Registry BalanceSheet) : Operation → Answer → List Saturating
  | .openChannel sender receiver amount _, answer =>
    let refund := r.balanceAt ⟨sender, receiver⟩
    .sum (r.ledger.free sender) refund ::
      match answer with
      | .opened _ =>
        [.sum (r.ledger.free sender) (refund.satSub amount),
          .difference (r.totalLocked sender) refund,
          .sum ((r.cleared ⟨sender, receiver⟩).totalLocked sender) amount]
      | _ => []
  | .addBalance sender _ amount, .funded _ => [.sum (r.totalLocked sender) amount]
  | .claim sender receiver _ amount _, .redeemed _ =>
    [.sum (r.ledger.free receiver) amount, .difference (r.totalLocked sender) amount]
  | .closeChannel _ sender receiver, .closed _ => r.closeArithmetic ⟨sender, receiver⟩
  | .closeExpired caller, _ =>
    r.closeAllArithmetic r.height (r.expiredEnds fun c => c.hasParty caller)
  | .sweep, _ => r.closeAllArithmetic r.height (r.expiredEnds fun _ => true)
  | _, _ => []

section
variable {supply : Nat} {r : Registry BalanceSheet}

theorem exact_close (hfit : supply < 2 ^ 128) (h : Balanced supply r) (ends : Ends) :
    ∀ x ∈ r.closeArithmetic ends, x.Exact := by
  intro x hx
  unfold closeArithmetic at hx
  cases hc : r.channels.get? ends with
  | none =>
    rw [hc] at hx
    cases hx
  | some c =>
    have hsender : c.sender = ends.sender := congrArg Ends.sender (h.filed ends c hc)
    have hlocked := unlock_difference h.filed h.backed hc
    have hown := free_add_balanceAt_le h.filed ends
    rw [hc] at hx
    rw [balanceAt_of_get? hc, h.worth, ← hsender] at hown
    rw [← hsender] at hlocked
    rcases List.mem_pair.mp hx with rfl | rfl
    · exact hlocked
    · exact Nat.lt_of_le_of_lt hown hfit

theorem exact_closeAll (hfit : supply < 2 ^ 128) (now : Height) (keys : List Ends)
    {r : Registry BalanceSheet} (h : Balanced supply r) :
    ∀ x ∈ r.closeAllArithmetic now keys, x.Exact := by
  induction keys generalizing r with
  | nil => exact fun x hx => nomatch hx
  | cons ends rest ih =>
    intro x hx
    rcases List.mem_append.mp hx with hx | hx
    · exact exact_close hfit h ends x hx
    · refine ih ?_ x hx
      cases hc : r.channels.get? ends with
      | none =>
        rw [close_of_none hc]
        exact h
      | some c => exact balanced_close hfit h hc now

theorem exact_opened (hfit : supply < 2 ^ 128) (h : Balanced supply r) {sender receiver : Account}
    {amount : Amount} {duration : Height} {channel : Channel} {r' : Registry BalanceSheet}
    (ho : Opened r sender receiver amount duration channel r') :
    ∀ x ∈ r.arithmetic (.openChannel sender receiver amount duration) (.opened channel),
      x.Exact := by
  have hw : r.worth < 2 ^ 128 := h.worth ▸ hfit
  have hspend := free_add_balanceAt_le h.filed ⟨sender, receiver⟩
  have hbal := balanceAt_le_inChannels h.filed ⟨sender, receiver⟩
  have hrefund : ((r.balanceAt ⟨sender, receiver⟩).satSub amount).val
      = (r.balanceAt ⟨sender, receiver⟩).val - amount.val := Word.val_satSub _ _
  rw [← h.backed] at hbal
  intro x hx
  simp only [arithmetic, List.mem_cons, List.not_mem_nil, or_false] at hx
  rcases hx with rfl | rfl | rfl | rfl
  · exact Nat.lt_of_le_of_lt hspend hw
  · show (r.ledger.free sender).val + _ < 2 ^ 128
    rw [hrefund]
    dsimp only at hspend
    omega
  · exact hbal
  · exact lock_sum_opened h.filed h.backed hw ho

theorem exact_refused (hfit : supply < 2 ^ 128) (h : Balanced supply r) (operation : Operation)
    (refusal : Refusal) : ∀ x ∈ r.arithmetic operation (.refused refusal), x.Exact := by
  cases operation with
  | openChannel sender receiver amount duration =>
    have hspend := free_add_balanceAt_le h.filed ⟨sender, receiver⟩
    rw [h.worth] at hspend
    intro x hx
    obtain rfl := List.mem_singleton.mp hx
    exact Nat.lt_of_le_of_lt hspend hfit
  | closeExpired caller => exact exact_closeAll hfit _ _ h
  | sweep => exact exact_closeAll hfit _ _ h
  | addBalance sender receiver amount => exact fun x hx => nomatch hx
  | claim sender receiver sessionId amount signature => exact fun x hx => nomatch hx
  | closeChannel caller sender receiver => exact fun x hx => nomatch hx
  | takeEvents => exact fun x hx => nomatch hx
  | drainStatistics => exact fun x hx => nomatch hx

theorem exact_perform (S : SignatureScheme) (hfit : supply < 2 ^ 128) (h : Balanced supply r)
    (operation : Operation) :
    ∀ x ∈ r.arithmetic operation (r.perform S operation).1, x.Exact := by
  have hw : r.worth < 2 ^ 128 := h.worth ▸ hfit
  obtain ⟨answer, r', hp, hout⟩ := exists_outcome S r operation
  rw [hp]
  dsimp only
  cases hout with
  | refused operation refusal => exact exact_refused hfit h operation refusal
  | refusedDebit operation refusal account x ledger hd => exact exact_refused hfit h operation refusal
  | opened sender receiver amount duration channel r' ho => exact exact_opened hfit h ho
  | funded sender receiver amount c channel r' hc =>
    intro x hx
    obtain rfl := List.mem_singleton.mp hx
    exact lock_sum_funded h.backed hw hc
  | redeemed sender receiver sessionId amount signature c receipt r' hc =>
    have hcov := hc.covered
    have hlocked := unlock_difference h.filed h.backed hc.found
    have hown := r.free_add_balance_le receiver ⟨sender, receiver⟩
    rw [balanceAt_of_get? hc.found] at hown
    intro x hx
    rcases List.mem_pair.mp hx with rfl | rfl
    · exact Nat.lt_of_le_of_lt (Nat.add_le_add_left hcov _) (Nat.lt_of_le_of_lt hown hw)
    · exact Nat.le_trans hcov hlocked
  | closed caller sender receiver party => exact exact_close hfit h ⟨sender, receiver⟩
  | closedExpired caller => exact exact_closeAll hfit _ _ h
  | swept => exact exact_closeAll hfit _ _ h
  | tookEvents => exact fun x hx => nomatch hx
  | drained => exact fun x hx => nomatch hx

end

/-! ## Whole runs -/

def sent (a : Account) (entries : List (Entry BalanceSheet)) : Nat :=
  (entries.map fun e => paidBy a e.operation e.answer).sum

def received (a : Account) (entries : List (Entry BalanceSheet)) : Nat :=
  (entries.map fun e => paidTo a e.operation e.answer).sum

def Entry.Exact (e : Entry BalanceSheet) : Prop :=
  ∀ x ∈ e.before.arithmetic e.operation e.answer, x.Exact

theorem sent_append (a : Account) (entries more : List (Entry BalanceSheet)) :
    sent a (entries ++ more) = sent a entries + sent a more := by
  unfold sent
  rw [List.map_append, List.sum_append]

theorem received_append (a : Account) (entries more : List (Entry BalanceSheet)) :
    received a (entries ++ more) = received a entries + received a more := by
  unfold received
  rw [List.map_append, List.sum_append]

/-- the books of a run over a sheet: they balance, every account has what it started with and what
it has been paid less what it has paid, and no arithmetic was cut off -/
structure Kept (sheet : BalanceSheet) (entries : List (Entry BalanceSheet))
    (r : Registry BalanceSheet) : Prop where
  balanced : Balanced sheet.totalIssuance r
  wealth : ∀ a, r.wealth a + sent a entries = (sheet.free a).val + received a entries
  uncut : ∀ e ∈ entries, e.Exact

theorem kept_ofLedger (sheet : BalanceSheet) : Kept sheet [] (ofLedger sheet) :=
  ⟨⟨filed_ofLedger sheet, backed_ofLedger sheet, rfl⟩, fun _ => rfl, fun _ he => nomatch he⟩

theorem kept_perform (S : SignatureScheme) {sheet : BalanceSheet}
    (hfit : sheet.totalIssuance < 2 ^ 128) {entries : List (Entry BalanceSheet)}
    {r : Registry BalanceSheet} (h : Kept sheet entries r) (operation : Operation) :
    Kept sheet (entries ++ [r.entry S operation]) (r.perform S operation).2 := by
  have hset := settled_perform S h.balanced.filed (h.balanced.worth ▸ hfit) operation
  refine ⟨balanced_perform S hfit h.balanced operation, fun a => ?_, fun e he => ?_⟩
  · have hold := h.wealth a
    have hstep := hset.wealth a
    have hsent : sent a [r.entry S operation] = paidBy a operation (r.perform S operation).1 :=
      Nat.add_zero _
    have hreceived : received a [r.entry S operation]
        = paidTo a operation (r.perform S operation).1 := Nat.add_zero _
    rw [sent_append, received_append, hsent, hreceived]
    omega
  · rcases List.mem_append.mp he with he | he
    · exact h.uncut e he
    · obtain rfl := List.mem_singleton.mp he
      exact exact_perform S hfit h.balanced operation

theorem kept_pass {sheet : BalanceSheet} {entries : List (Entry BalanceSheet)}
    {r : Registry BalanceSheet} (h : Kept sheet entries r) (p : Passage) :
    Kept sheet entries { r with ledger := r.ledger.pass p } := by
  have hfree : ∀ a, (r.ledger.pass p).free a = r.ledger.free a := by
    intro a
    unfold BalanceSheet.free
    rw [BalanceSheet.balances_pass]
  refine ⟨balanced_pass h.balanced p, fun a => ?_, h.uncut⟩
  rw [← h.wealth a]
  exact congrArg (fun x : Amount => x.val + r.inChannels a + sent a entries) (hfree a)

/-- whatever is asked of a registry, in any order and while blocks pass: what an account has free
and in its channels is what it started with and what it has been paid, less what it has paid; all
own together what there was at the start; and no sum or difference on money was ever cut off -/
theorem funds_conserved (S : SignatureScheme) (sheet : BalanceSheet)
    (hfit : sheet.totalIssuance < 2 ^ 128) (moves : List (Move Passage)) :
    let journal := (ofLedger sheet).journal S BalanceSheet.pass moves
    let r := (ofLedger sheet).after S BalanceSheet.pass moves
    (∀ a, (r.ledger.free a).val + r.inChannels a + sent a journal
      = (sheet.free a).val + received a journal) ∧
    r.ledger.totalIssuance + r.allInChannels = sheet.totalIssuance ∧
    ∀ e ∈ journal, e.Exact := by
  have hkept := run_induction S BalanceSheet.pass (P := Kept sheet)
    (kept_ofLedger sheet) (fun _ _ operation h => kept_perform S hfit h operation)
    (fun _ _ p h => kept_pass h p) moves
  exact ⟨hkept.wealth, hkept.balanced.worth, hkept.uncut⟩

/-- a node starts with two accounts, of a hundred and of five: the one opens a channel to the other and adds to it
while blocks pass; the other claims from it and closes it -/
theorem funds_conserved_two_accounts :
    let secret : Secret := ⟨List.replicate 32 1, by decide⟩
    let payer := ed25519.account secret
    let payee : Account := .repeated 2
    let config : Config := { Config.standard with
      genesis := [⟨payer, ⟨100, by decide⟩⟩, ⟨payee, ⟨5, by decide⟩⟩] }
    let sheet := config.service.registry.ledger
    let signature := ed25519.signVoucher secret payee Word.zero Word.one ⟨7, by decide⟩
    let moves : List (Move Passage) :=
      [.ask (.openChannel payer payee ⟨40, by decide⟩ ⟨10, by decide⟩),
        .elapse (.advance ⟨3, by decide⟩),
        .ask (.addBalance payer payee ⟨5, by decide⟩),
        .ask (.claim payer payee Word.one ⟨7, by decide⟩ signature),
        .ask (.closeChannel payee payer payee)]
    let journal := (ofLedger sheet).journal ed25519 BalanceSheet.pass moves
    let r := (ofLedger sheet).after ed25519 BalanceSheet.pass moves
    sheet.totalIssuance < 2 ^ 128 ∧ received payee journal = 7 ∧
      (r.ledger.free payee).val + r.inChannels payee + sent payee journal = 12 ∧
      r.ledger.totalIssuance + r.allInChannels = 105 := by
  intro secret payer payee config sheet signature moves journal r
  have hfit : sheet.totalIssuance < 2 ^ 128 :=
    BalanceSheet.totalIssuance_service_lt config (by decide)
  have hsum : sheet.totalIssuance = 105 := by decide +kernel
  have hpaid : received payee journal = 7 := by decide +kernel
  have hfree : (sheet.free payee).val = 5 := by decide +kernel
  obtain ⟨hwealth, htotal, -⟩ := funds_conserved ed25519 sheet hfit moves
  refine ⟨hfit, hpaid, ?_, htotal.trans hsum⟩
  rw [hwealth payee, hfree, hpaid]

end Registry
end PayChannel
