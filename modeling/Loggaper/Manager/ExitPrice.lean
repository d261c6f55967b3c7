import Loggaper.Manager.Noted
import Loggaper.Manager.RowChange
import Loggaper.Manager.SellFlags

/-!
# The exit price of a graduated row

The poll says with its result whether it counts as Jupiter's. A forced poll without a quote counts
as Jupiter's all the same, with the market cap of the bonding curve or of the pool, and the row
takes it in the place of the quote it had.

- `quoteNotes`: the quote behind each polled price, and the last quote that has arrived for a row.
- `pricedByQuote_of_keepsQuotes`: the exits of a row on Jupiter's price read its last valid quote,
  on every run without such a poll.
- `quote_lost`: a row with a quote of 100 SOL that is priced at its frozen pool.
-/

namespace Loggaper

/-! ## Quotes beside the run -/

/-- The valid quote in the answer to a poll. -/
def Answer.quote : Answer → Option ℚ
  | .mcaps _ jupiter => jupiter.filter (0 < ·)
  | _ => none

/-- For each row the last valid quote that has arrived since it was opened. -/
abbrev Quotes := PositionKey → Option ℚ

/-- A quote arrives for every row of its mint; a fill opens its row without one. -/
def noteQuote (quotes : Quotes) (m : PositionManagerActor) (env : TurnEnv)
    (msg : PositionMessage) (quote : Option ℚ) : Quotes :=
  match msg with
  | .applyExitMcapRefresh mint _ _ => fun key =>
    if key.mint = mint then quote.or (quotes key) else quotes key
  | .buyCompleted order _ (.ok r) =>
    if m.abortsFill env order r then quotes else Function.update quotes order.key none
  | _ => quotes

def quoteNotes : Notes (Option ℚ) Unit Quotes Empty Unit where
  start quotes := ∀ key, quotes key = none
  posted := none
  left := ()
  spawned _ _ := ()
  answered _ _ _ answer _ := some answer.quote
  turn := noteQuote
  outside _ d := d.elim

/-- The manager with the quotes that it has been sent. -/
abbrev Quoted := Noted (Option ℚ) Unit Quotes

namespace Quoted

variable (w : Quoted)

/-- The row under a key. -/
def row (key : PositionKey) : Option Position := AList.lookup key w.actor.positions

/-- A row on Jupiter's price for which a quote has arrived is priced at the last one. -/
def PricedByQuote : Prop :=
  ∀ key p j, w.row key = some p → p.useJupiterExitMcap = true → w.record key = some j →
    p.exitRawMcap = j

/-- All rows of a mint, with their quotes. -/
def AllRows (mint : Address) (P : Position → Option ℚ → Prop) : Prop :=
  ∀ e ∈ w.actor.positions.entries, e.1.mint = mint → P e.2 (w.record e.1)

/-- What a turn must not do to a row's quote. -/
def TurnKeepsQuotes (env : TurnEnv) : PositionMessage × Option ℚ → Prop
  -- a price that counts as Jupiter's has a quote behind it, or no row of the mint has had one
  | (.applyExitMcapRefresh mint _ true, quote) =>
    quote = none → w.AllRows mint fun _ last => last = none
  -- a quote that does not count finds no row of the mint on Jupiter's price
  | (.applyExitMcapRefresh mint _ false, quote) =>
    quote ≠ none → w.AllRows mint fun p _ => p.useJupiterExitMcap = false
  -- the ceiling puts a row on Jupiter's price before a quote has arrived
  | (.tick, _) => ∀ e ∈ w.actor.positions.entries, e.2.useJupiterExitMcap = false →
    (w.actor.tickRow (env.clock 0) e.1 e.2).pos.useJupiterExitMcap = true → w.record e.1 = none
  | _ => True

def KeepsQuotes : NotedEvent Empty Unit → Prop
  | .inside (.turn env) _ => ∀ m ∈ w.mailbox.head?, w.TurnKeepsQuotes env m
  | _ => True

instance (mint : Address) (P : Position → Option ℚ → Prop) [∀ p j, Decidable (P p j)] :
    Decidable (w.AllRows mint P) :=
  inferInstanceAs (Decidable (∀ e ∈ w.actor.positions.entries, _ → _))

instance (env : TurnEnv) : DecidablePred (w.TurnKeepsQuotes env)
  | (.applyExitMcapRefresh mint _ true, quote) =>
    inferInstanceAs (Decidable (quote = none → w.AllRows mint fun _ last => last = none))
  | (.applyExitMcapRefresh mint _ false, quote) =>
    inferInstanceAs (Decidable
      (quote ≠ none → w.AllRows mint fun p _ => p.useJupiterExitMcap = false))
  | (.tick, _) => inferInstanceAs (Decidable (∀ e ∈ w.actor.positions.entries, _ → _ → _))
  | (.updatePool _, _) | (.updateTokenBucket _, _) | (.applyLiveSnapshot .., _)
  | (.setPaused _, _) | (.initiateBuy .., _) | (.clearPendingMint _, _) | (.executeBuy _, _)
  | (.buyCompleted .., _) | (.executeSell .., _) | (.abandonPosition .., _) => .isTrue trivial

instance : DecidablePred w.KeepsQuotes
  | .inside (.turn env) _ =>
    inferInstanceAs (Decidable (∀ m ∈ w.mailbox.head?, w.TurnKeepsQuotes env m))
  | .inside (.post _) _ | .inside (.patchWallets _) _ | .inside (.resume ..) _ => .isTrue trivial

/-! ## Quotes are kept -/

/-- Rows hold the quotes that have arrived, and a price in flight that counts as Jupiter's is the
quote behind it, when there is one. -/
structure Sound : Prop where
  rows : ∀ key p j, w.row key = some p → p.useJupiterExitMcap = true → w.record key = some j →
    p.exitMcapJupiter = some j
  record_pos : ∀ key j, w.record key = some j → 0 < j
  messages : ∀ m ∈ w.mailbox, ∀ j, m.2 = some j →
    0 < j ∧ ∀ mint mcap, m.1 = .applyExitMcapRefresh mint mcap true → mcap = j

variable {w}

theorem AllRows.of_row {mint : Address} {P : Position → Option ℚ → Prop} (h : w.AllRows mint P)
    {key : PositionKey} {p : Position} (hp : w.row key = some p) (hmint : key.mint = mint) :
    P p (w.record key) :=
  h ⟨key, p⟩ (AList.mem_lookup_iff.mp hp) hmint

theorem Sound.priced (h : w.Sound) : w.PricedByQuote := by
  intro key p j hp huse hj
  have hpos : 0 < j := h.record_pos key j hj
  have hvalid : (some j).filter (0 < ·) = some j := by simp [Option.filter, hpos]
  rw [Position.exitRawMcap, if_pos huse, h.rows key p j hp huse hj, hvalid]
  rfl

theorem sound_fresh (h : quoteNotes.Fresh w) : w.Sound := by
  have hnone : ∀ key, w.record key = none := h.record
  constructor
  · intro key p j hp huse hj
    rw [hnone] at hj
    cases hj
  · intro key j hj
    rw [hnone] at hj
    cases hj
  · intro m hm
    simp [h.mailbox] at hm

theorem decideOpenExitMcap_quote {bonding jupiter : Option ℚ} {pool : ℚ} {force : Bool} {j : ℚ}
    (hj : jupiter.filter (0 < ·) = some j)
    (huse : (decideOpenExitMcap bonding jupiter pool force).2 = true) :
    (decideOpenExitMcap bonding jupiter pool force).1 = j := by
  simp only [decideOpenExitMcap, hj] at huse ⊢
  cases force with
  | true => rfl
  | false =>
    simp only [Bool.false_eq_true, if_false] at huse ⊢
    cases hb : bonding.filter (0 < ·) with
    | some b =>
      simp only [hb] at huse ⊢
      split_ifs at huse ⊢
      rfl
    | none =>
      simp only [hb] at huse ⊢
      split_ifs at huse ⊢
      rfl

/-- What a task sends after an answer agrees with the quote in the answer. -/
theorem quote_of_resume {task : Task} {answer : Answer} {left : Option Task}
    {msg : PositionMessage} (h : task.resume answer = some (left, msg)) {j : ℚ}
    (hj : answer.quote = some j) :
    0 < j ∧ ∀ mint mcap, msg = .applyExitMcapRefresh mint mcap true → mcap = j := by
  cases answer with
  | mcaps bonding jupiter =>
    have hpos := (Option.filter_eq_some_iff.mp hj).2
    refine ⟨by simpa using hpos, ?_⟩
    cases task with
    | exitMcapPoll poll =>
      simp only [Task.resume, Option.some.injEq, Prod.mk.injEq] at h
      rintro mint mcap rfl
      simp only [PositionMessage.applyExitMcapRefresh.injEq] at h
      obtain ⟨-, -, rfl, huse⟩ := h
      exact decideOpenExitMcap_quote hj huse
    | _ => simp [Task.resume] at h
  | _ => cases hj

theorem Sound.other_tasks (h : w.Sound) (tasks : List (Task × Unit)) :
    Sound { w with tasks := tasks } :=
  ⟨h.rows, h.record_pos, h.messages⟩

theorem Sound.wallets (h : w.Sound) (wallets : WalletRegistry) :
    Sound { w with actor.wallets := wallets } :=
  ⟨h.rows, h.record_pos, h.messages⟩

/-- A message that agrees with its quote joins the mailbox. -/
theorem Sound.send (h : w.Sound) {msg : PositionMessage} {quote : Option ℚ}
    (hmsg : ∀ j, quote = some j →
      0 < j ∧ ∀ mint mcap, msg = .applyExitMcapRefresh mint mcap true → mcap = j) :
    Sound { w with mailbox := w.mailbox ++ [(msg, quote)] } := by
  refine ⟨h.rows, h.record_pos, fun m hm j hj => ?_⟩
  rcases List.mem_append.mp hm with hm | hm
  · exact h.messages m hm j hj
  · rw [List.mem_singleton] at hm
    subst hm
    exact hmsg j hj

/-! ## A turn -/

variable {env : TurnEnv} {msg : PositionMessage} {quote : Option ℚ}

theorem noteQuote_refresh {quotes : Quotes} {m : PositionManagerActor} {mint : Address} {mcap : ℚ}
    {useJupiter : Bool} {key : PositionKey} (hmint : key.mint = mint) :
    noteQuote quotes m env (.applyExitMcapRefresh mint mcap useJupiter) quote key =
      quote.or (quotes key) := by
  simp [noteQuote, hmint]

/-- A refreshed price leaves the rows of its mint with their last quote. -/
theorem rows_refresh (h : w.Sound) {mint : Address} {mcap : ℚ} {useJupiter : Bool}
    (hmem : (.applyExitMcapRefresh mint mcap useJupiter, quote) ∈ w.mailbox)
    (hkeeps : w.TurnKeepsQuotes env (.applyExitMcapRefresh mint mcap useJupiter, quote))
    {key : PositionKey} {q : Position} {j : ℚ}
    (hq : AList.lookup key (w.actor.applyExitMcapRefresh mint mcap useJupiter).actor.positions =
      some q)
    (huse : q.useJupiterExitMcap = true)
    (hj : noteQuote w.record w.actor env (.applyExitMcapRefresh mint mcap useJupiter) quote key =
      some j) :
    q.exitMcapJupiter = some j := by
  obtain ⟨p, hp, hpq⟩ := Option.map_eq_some_iff.mp
    ((PositionManagerActor.lookup_updateRows w.actor key mint _).symm.trans hq)
  by_cases hmint : key.mint = mint
  · rw [if_pos hmint] at hpq
    rw [noteQuote_refresh hmint] at hj
    cases useJupiter with
    | true =>
      subst hpq
      show some mcap = some j
      cases quote with
      | some k =>
        rw [(h.messages _ hmem k rfl).2 mint mcap rfl]
        exact hj
      | none =>
        have hnone : w.record key = none := (hkeeps rfl).of_row hp hmint
        rw [Option.none_or, hnone] at hj
        cases hj
    | false =>
      have hsame : p = q := hpq
      subst hsame
      cases quote with
      | some k =>
        have hoff : p.useJupiterExitMcap = false :=
          (hkeeps (Option.some_ne_none k)).of_row hp hmint
        rw [hoff] at huse
        cases huse
      | none => exact h.rows key p j hp huse hj
  · rw [if_neg hmint] at hpq
    subst hpq
    refine h.rows key p j hp huse ?_
    simpa [noteQuote, hmint] using hj

/-- Other messages write no quote. -/
theorem noteQuote_kept (hmsg : ∀ mint mcap useJupiter,
    msg ≠ .applyExitMcapRefresh mint mcap useJupiter) {key : PositionKey} {j : ℚ}
    (hj : noteQuote w.record w.actor env msg quote key = some j) : w.record key = some j := by
  unfold noteQuote at hj
  split at hj
  · exact absurd rfl (hmsg _ _ _)
  · split_ifs at hj
    · exact hj
    · rw [Function.update_apply] at hj
      split_ifs at hj
      exact hj
  · exact hj

/-- A turn that takes another message leaves the rows with their last quote. -/
theorem rows_other (h : w.Sound) (hkeeps : w.TurnKeepsQuotes env (msg, quote))
    (hmsg : ∀ mint mcap useJupiter, msg ≠ .applyExitMcapRefresh mint mcap useJupiter)
    {key : PositionKey} {q : Position} {j : ℚ}
    (hq : AList.lookup key (w.actor.handle env msg).actor.positions = some q)
    (huse : q.useJupiterExitMcap = true)
    (hj : noteQuote w.record w.actor env msg quote key = some j) :
    q.exitMcapJupiter = some j := by
  have hlast : w.record key = some j := noteQuote_kept hmsg hj
  rcases PositionManagerActor.rowChange_or_opened hq with
    ⟨p, hp, hchange⟩ | ⟨order, pool, r, -, -, -, rfl⟩
  · obtain ⟨hsame, htick⟩ := hchange.quote_kept hmsg
    rw [hsame]
    refine h.rows key p j hp ?_ hlast
    rcases htick with rfl | hon
    · by_contra hoff
      rw [Bool.not_eq_true] at hoff
      -- only the ceiling puts the row on Jupiter's price here
      have hrow : q = (w.actor.tickRow (env.clock 0) key p).pos := by
        have hq' : AList.lookup key (w.actor.tick env).actor.positions = some q := hq
        rw [PositionManagerActor.lookup_tick, hp, Option.map_some, Option.some.injEq] at hq'
        exact hq'.symm
      have hnone := hkeeps ⟨key, p⟩ (AList.mem_lookup_iff.mp hp) hoff (hrow ▸ huse)
      rw [hlast] at hnone
      cases hnone
    · rw [← hon]
      exact huse
  · have hfeeds :=
      PositionManagerActor.openedPosition_feeds w.actor.config order pool r (env.clock 0)
    rw [hfeeds.2.2.1] at huse
    cases huse

/-- What has been recorded stays a valid quote. -/
theorem record_pos_turn (h : w.Sound) (hmem : (msg, quote) ∈ w.mailbox) {key : PositionKey} {j : ℚ}
    (hj : noteQuote w.record w.actor env msg quote key = some j) : 0 < j := by
  by_cases hmsg : ∀ mint mcap useJupiter, msg ≠ .applyExitMcapRefresh mint mcap useJupiter
  · exact h.record_pos key j (noteQuote_kept hmsg hj)
  · push Not at hmsg
    obtain ⟨mint, mcap, useJupiter, rfl⟩ := hmsg
    by_cases hmint : key.mint = mint
    · rw [noteQuote_refresh hmint] at hj
      cases quote with
      | some k =>
        cases hj
        exact (h.messages _ hmem j rfl).1
      | none => exact h.record_pos key j hj
    · refine h.record_pos key j ?_
      simpa [noteQuote, hmint] using hj

theorem Sound.step {e : NotedEvent Empty Unit} {w' : Quoted} (h : w.Sound) (hg : w.KeepsQuotes e)
    (hstep : quoteNotes.step w e = some w') : w'.Sound := by
  cases e with
  | outside d => exact d.elim
  | inside e x =>
    cases e with
    | post msg =>
      obtain ⟨-, rfl⟩ := Notes.step_post hstep
      exact h.send fun j hj => by cases hj
    | patchWallets entries =>
      cases hstep
      exact h.wallets _
    | resume i answer =>
      obtain ⟨task, b, left, msg, quote, -, hres, hquote, rfl⟩ := Notes.step_resume hstep
      have hquote' : answer.quote = quote := Option.some.inj hquote
      subst hquote'
      exact (h.send fun j hj => quote_of_resume hres hj).other_tasks _
    | turn env =>
      obtain ⟨msg, quote, rest, hbox, rfl⟩ := Notes.step_turn hstep
      have hkeeps : w.TurnKeepsQuotes env (msg, quote) := hg (msg, quote) (by simp [hbox])
      have hmem : (msg, quote) ∈ w.mailbox := by simp [hbox]
      refine ⟨fun key q j hq huse hj => ?_, fun key j hj => record_pos_turn h hmem hj,
        fun m hm => h.messages m (hbox ▸ List.mem_cons_of_mem _ hm)⟩
      by_cases hmsg : ∀ mint mcap useJupiter, msg ≠ .applyExitMcapRefresh mint mcap useJupiter
      · exact rows_other h hkeeps hmsg hq huse hj
      · push Not at hmsg
        obtain ⟨mint, mcap, useJupiter, rfl⟩ := hmsg
        exact rows_refresh h hmem hkeeps hq huse hj

/-- **The exits read Jupiter's last quote**, on every run in which no price without a quote takes
its place. -/
theorem pricedByQuote_of_keepsQuotes (h : quoteNotes.machine.ReachableUnder KeepsQuotes w) :
    w.PricedByQuote :=
  (h.invariant (I := Sound) (fun _ => sound_fresh)
    fun _ _ _ hs hg hstep => hs.step hg hstep).priced

/-- Every run of the manager is one with quotes beside it. -/
theorem exists_quoted {s : System} (h : manager.Reachable s) :
    ∃ w : Quoted, quoteNotes.machine.Reachable w ∧ w.forget = s :=
  Notes.exists_noted (N := quoteNotes) (fun _ => rfl)
    (fun _ _ _ answer => ⟨(), answer.quote, rfl⟩) h

/-! ## A graduated mint -/

/-- A small manager that polls. -/
def small : Quoted where
  actor := { (System.small oneWallet {}).actor with hasRpc := true }
  mailbox := []
  tasks := []
  log := []
  record _ := none

theorem small_fresh : quoteNotes.Fresh small := ⟨⟨rfl, rfl, rfl, rfl, rfl, rfl, rfl⟩, fun _ => rfl⟩

/-- The pool freezes at 400 SOL, over the ceiling, and the poll comes back with 100 SOL. -/
def graduation : List (NotedEvent Empty Unit) :=
  (oneFill ++ [turn] ++ mcapTo 400 ++ tickAt 3 ++ [.resume 0 (.mcaps none (some 100)), turn]).map
    (.inside · ())

/-- Six seconds in, the next poll comes back without a quote. -/
def missedPoll : List (NotedEvent Empty Unit) :=
  (tickAt 6 ++ [.resume 1 (.mcaps none none), turn]).map (.inside · ())

theorem pricedByQuote_graduation :
    ∃ w : Quoted, ((w.row smallOrder.key).map (·.useJupiterExitMcap) = some true ∧
      w.record smallOrder.key = some 100) ∧ w.PricedByQuote := by
  have hrun : ((quoteNotes.machine.runUnder KeepsQuotes small graduation).any fun w : Quoted =>
      decide ((w.row smallOrder.key).map (·.useJupiterExitMcap) = some true ∧
        w.record smallOrder.key = some 100)) = true := by
    decide +kernel
  obtain ⟨w, hw, h⟩ := (Option.any_eq_true _ _).mp hrun
  exact ⟨w, of_decide_eq_true h,
    pricedByQuote_of_keepsQuotes ⟨small, graduation, small_fresh, .of_runUnder hw⟩⟩

/-- A poll without a quote takes the quote from the row: its exits read the frozen pool. -/
theorem quote_lost :
    ∃ w : Quoted, quoteNotes.machine.Reachable w ∧ ¬ w.PricedByQuote ∧
      ∃ p, w.row smallOrder.key = some p ∧ p.useJupiterExitMcap = true ∧
        w.record smallOrder.key = some 100 ∧ p.exitRawMcap = 400 := by
  have hrun : ((quoteNotes.machine.run small (graduation ++ missedPoll)).any fun w : Quoted =>
      (w.row smallOrder.key).any fun p => decide (p.useJupiterExitMcap = true ∧
        w.record smallOrder.key = some 100 ∧ p.exitRawMcap = 400)) = true := by
    decide +kernel
  obtain ⟨w, hw, hrow⟩ := (Option.any_eq_true _ _).mp hrun
  obtain ⟨p, hp, h⟩ := (Option.any_eq_true _ _).mp hrow
  obtain ⟨huse, hquote, hmcap⟩ := of_decide_eq_true h
  refine ⟨w, ⟨small, graduation ++ missedPoll, small_fresh, hw⟩, ?_, p, hp, huse, hquote, hmcap⟩
  intro hpriced
  have hread := hpriced smallOrder.key p 100 hp huse hquote
  rw [hmcap] at hread
  exact absurd hread (by norm_num)

end Quoted

end Loggaper
