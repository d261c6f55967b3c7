import Loggaper.Manager.Buys
import Loggaper.Manager.Rows

/-!
# Holdings are conserved

From its fill to its end a row sells what it holds and no more. `OpenBooks` ties an open row to
the sales of its key since the fill; `RowLife` adds its two ends. `rowLife_path` is the run lemma,
and `holdings_conserved` the result from the fill on, with what each further step may do.
-/

namespace Loggaper

open PositionManagerActor

/-! ## Reading the sales of a key -/

/-- Partial sells that the broker took: the quantity asked for, and the receipt. -/
def partSells (sales : List Effect) : List (ℚ × SellReceipt) :=
  sales.filterMap fun
    | .brokerSell _ qty false (.ok r) => some (qty, r)
    | _ => none

/-- Full sells that the broker took. -/
def fullSells (sales : List Effect) : List (ℚ × SellReceipt) :=
  sales.filterMap fun
    | .brokerSell _ qty true (.ok r) => some (qty, r)
    | _ => none

/-- Close records of the strategy and of the trade history. -/
def closeRecords (sales : List Effect) : List Effect :=
  sales.filter fun
    | .notePositionClosed .. | .saveBotTrade .. => true
    | _ => false

@[simp] theorem partSells_append (l₁ l₂ : List Effect) :
    partSells (l₁ ++ l₂) = partSells l₁ ++ partSells l₂ := by
  simp [partSells]

@[simp] theorem fullSells_append (l₁ l₂ : List Effect) :
    fullSells (l₁ ++ l₂) = fullSells l₁ ++ fullSells l₂ := by
  simp [fullSells]

@[simp] theorem closeRecords_append (l₁ l₂ : List Effect) :
    closeRecords (l₁ ++ l₂) = closeRecords l₁ ++ closeRecords l₂ := by
  simp [closeRecords]

/-! ## The books of a row -/

/-- An open row after these sales: what was bought is what is held and what was sold, up to half a
nano unit for each partial sell; what has come back is what the receipts say; nothing is closed. -/
structure OpenBooks (bought : Amount) (spent : ℚ) (pos : Position) (sales : List Effect) :
    Prop where
  initialHoldings : pos.initialHoldings = bought
  spentSol : pos.spentSol = spent
  decimals : pos.holdings.decimals = 9
  holdings_le : pos.holdings.value ≤ u64Max
  conserved :
    |bought.toFloat - (pos.holdings.toFloat + ((partSells sales).map (·.1)).sum)| ≤
      (partSells sales).length * (1 / 2 / 10 ^ 9)
  returned : pos.totalReturned = ((partSells sales).map (·.2.solReceivedActual)).sum
  noFull : fullSells sales = []
  noRecord : closeRecords sales = []

/-- The life of a row: open, closed by one full sell with its two records, or abandoned. -/
inductive RowLife (key : PositionKey) (bought : Amount) (spent : ℚ) :
    Option Position → List Effect → Prop
  | held {pos : Position} {sales : List Effect} :
      OpenBooks bought spent pos sales → RowLife key bought spent (some pos) sales
  | closed {last : Position} {sales : List Effect} {r : SellReceipt} {entry : BotTradeEntry} :
      OpenBooks bought spent last sales →
      RowLife key bought spent none (sales ++ [.brokerSell key last.holdings.toFloat true (.ok r),
        .notePositionClosed key (closedPnlSol last (last.totalReturned + r.solReceivedActual)),
        .saveBotTrade key entry])
  | abandoned {last : Position} {sales : List Effect} :
      OpenBooks bought spent last sales → RowLife key bought spent none sales

variable {key : PositionKey} {bought : Amount} {spent : ℚ} {pos pos' : Position}
  {sales : List Effect}

theorem OpenBooks.of_sameHolding (h : OpenBooks bought spent pos sales)
    (hsame : SameHolding pos pos') : OpenBooks bought spent pos' sales where
  initialHoldings := hsame.initialHoldings.trans h.initialHoldings
  spentSol := hsame.spentSol.trans h.spentSol
  decimals := by rw [hsame.holdings, h.decimals]
  holdings_le := by rw [hsame.holdings]; exact h.holdings_le
  conserved := by rw [hsame.holdings]; exact h.conserved
  returned := hsame.totalReturned.trans h.returned
  noFull := h.noFull
  noRecord := h.noRecord

theorem sellQty_nonneg {percent : ℚ} (h : 0 ≤ percent) (pos : Position) :
    0 ≤ pos.sellQty percent :=
  mul_nonneg pos.holdings.toFloat_nonneg (by linarith)

/-- A sell of at most the whole asks for at most what is held. -/
theorem sellQty_le {percent : ℚ} (h : percent ≤ 100) (pos : Position) :
    pos.sellQty percent ≤ pos.holdings.toFloat :=
  mul_le_of_le_one_right pos.holdings.toFloat_nonneg (by linarith)

/-- A failed sell touches flags only. -/
theorem sameHolding_rowAfterSellError (e : BrokerError) (percent : ℚ) (pos : Position) :
    SameHolding pos (rowAfterSellError e percent pos) := by
  unfold rowAfterSellError
  split_ifs <;> exact ⟨rfl, rfl, rfl, rfl⟩

/-- A failed sell is no part of the books. -/
theorem OpenBooks.failed (h : OpenBooks bought spent pos sales) {percent qty : ℚ} {close : Bool}
    (e : BrokerError) :
    OpenBooks bought spent (rowAfterSellError e percent pos)
      (sales ++ [.brokerSell key qty close (.error e)]) := by
  have h' := h.of_sameHolding (sameHolding_rowAfterSellError e percent pos)
  have hp : partSells [.brokerSell key qty close (.error e)] = [] := by cases close <;> rfl
  have hf : fullSells [.brokerSell key qty close (.error e)] = [] := by cases close <;> rfl
  refine ⟨h'.initialHoldings, h'.spentSol, h'.decimals, h'.holdings_le, ?_, ?_, ?_, ?_⟩
  · rw [partSells_append, hp, List.append_nil]
    exact h'.conserved
  · rw [partSells_append, hp, List.append_nil]
    exact h'.returned
  · rw [fullSells_append, hf, h.noFull, List.append_nil]
  · rw [closeRecords_append, h.noRecord]
    rfl

/-- Rounding the rest of a partial sell: what stays is off by half a nano unit at most. -/
theorem abs_rest_sub_le (hdec : pos.holdings.decimals = 9) (hle : pos.holdings.value ≤ u64Max)
    {qty : ℚ} (h₀ : 0 ≤ qty) (h : qty ≤ pos.holdings.toFloat) :
    |(Amount.fromFloatNative (pos.holdings.toFloat - qty)).toFloat - (pos.holdings.toFloat - qty)| ≤
      1 / 2 / 10 ^ 9 := by
  apply Amount.abs_fromFloatNative_toFloat_sub_le (by linarith)
  have hval : pos.holdings.toFloat * 10 ^ 9 = pos.holdings.value := by
    rw [Amount.toFloat, hdec]; field_simp
  have hle' : (pos.holdings.value : ℚ) ≤ u64Max := by exact_mod_cast hle
  nlinarith

/-- A partial sell moves what it sells from the holdings to the sales. -/
theorem OpenBooks.sold (h : OpenBooks bought spent pos sales) {percent : ℚ} (h₀ : 0 ≤ percent)
    (hpct : percent < 100) (r : SellReceipt) :
    OpenBooks bought spent
      (rowAfterPartialSell r (pos.sellQty percent) pos)
      (sales ++ [.brokerSell key (pos.sellQty percent) false (.ok r)]) := by
  have hq₀ := sellQty_nonneg h₀ pos
  have hq := sellQty_le hpct.le pos
  have hp : partSells [.brokerSell key (pos.sellQty percent) false (.ok r)] =
    [(pos.sellQty percent, r)] := rfl
  refine ⟨h.initialHoldings, h.spentSol, rfl, ?_, ?_, ?_, ?_, ?_⟩
  · calc _ ≤ pos.holdings.value := Amount.fromFloatNative_value_le h.decimals (by linarith)
      _ ≤ u64Max := h.holdings_le
  · have hround := abs_rest_sub_le h.decimals h.holdings_le hq₀ hq
    have hcons := h.conserved
    rw [abs_le] at hround hcons ⊢
    simp only [rowAfterPartialSell, partSells_append, hp, List.map_append,
      List.map_cons, List.map_nil, List.sum_append, List.sum_cons, List.sum_nil, List.length_append,
      List.length_cons, List.length_nil]
    push_cast
    constructor <;> linarith [hround.1, hround.2, hcons.1, hcons.2]
  · simp only [rowAfterPartialSell, partSells_append, hp, List.map_append,
      List.map_cons, List.map_nil, List.sum_append, List.sum_cons, List.sum_nil, h.returned,
      add_zero]
  · rw [fullSells_append, h.noFull]
    rfl
  · rw [closeRecords_append, h.noRecord]
    rfl

/-! ## A turn of the books -/

/-- One turn of a row carries its life on. -/
theorem RowLife.turn {cfg : SmartBuyConfig} {env : TurnEnv} {msg : PositionMessage}
    {row row' : Option Position} {queued : Multiset (ℚ × SellReason)} {new : List Effect}
    (h : RowLife key bought spent row sales) (hturn : RowTurn cfg env key msg row row' queued new)
    (hpct : ∀ percent reason, msg = .executeSell key percent reason → 0 ≤ percent ∧ percent ≤ 100) :
    RowLife key bought spent row' (sales ++ new) := by
  cases hturn with
  | absent => rw [List.append_nil]; exact h
  | kept hsame hflags =>
    cases h with
    | held hbooks => rw [List.append_nil]; exact .held (hbooks.of_sameHolding hsame)
  | queued hopen hspec =>
    cases h with
    | held hbooks =>
      rw [List.append_nil]
      refine .held (hbooks.of_sameHolding ?_)
      cases hspec with
      | close hb _ _ => exact .of_books hb
      | lockIn l hb _ _ _ _ _ => exact .of_books hb
  | failed hsell =>
    cases h with
    | held hbooks => exact .held (hbooks.failed _)
  | sold hsell hlt =>
    cases h with
    | held hbooks => exact .held (hbooks.sold (hpct _ _ rfl).1 hlt _)
  | @closed p percent reason r entry hsell hge =>
    cases h with
    | held hbooks =>
      have hfull : percent = 100 := le_antisymm (hpct _ _ rfl).2 hge
      have hqty : p.sellQty percent = p.holdings.toFloat := by
        rw [Position.sellQty, hfull]; ring
      rw [hqty]
      exact .closed hbooks
  | abandoned =>
    cases h with
    | held hbooks => rw [List.append_nil]; exact .abandoned hbooks

/-- What a turn may do to a row: every sell asks for at most what is held, nothing comes back into
the row, a failed sell changes nothing that is held, and a row that has gone stays away. -/
structure SellStep (key : PositionKey) (row row' : Option Position) (new : List Effect) :
    Prop where
  asks : ∀ qty close result, .brokerSell key qty close result ∈ new →
    ∃ pos, row = some pos ∧ 0 ≤ qty ∧ qty ≤ pos.holdings.toFloat
  shrinks : ∀ pos pos', row = some pos → row' = some pos' →
    pos'.holdings.toFloat ≤ pos.holdings.toFloat
  failed : ∀ qty close e, .brokerSell key qty close (.error e) ∈ new →
    ∃ pos pos', row = some pos ∧ row' = some pos' ∧ SameHolding pos pos'
  ends : row = none → row' = none

theorem SellStep.of_sameHolding (h : SameHolding pos pos') :
    SellStep key (some pos) (some pos') [] where
  asks _ _ _ hmem := absurd hmem List.not_mem_nil
  shrinks p p' hp hp' := by
    cases hp
    cases hp'
    rw [h.holdings]
  failed _ _ _ hmem := absurd hmem List.not_mem_nil
  ends hrow := absurd hrow (by simp)

theorem RowLife.sellStep {cfg : SmartBuyConfig} {env : TurnEnv} {msg : PositionMessage}
    {row row' : Option Position} {queued : Multiset (ℚ × SellReason)} {new : List Effect}
    (h : RowLife key bought spent row sales) (hturn : RowTurn cfg env key msg row row' queued new)
    (hpct : ∀ percent reason, msg = .executeSell key percent reason → 0 ≤ percent ∧ percent ≤ 100) :
    SellStep key row row' new := by
  cases hturn with
  | absent => exact ⟨by simp, by simp, by simp, fun _ => rfl⟩
  | kept hsame hflags => exact .of_sameHolding hsame
  | queued hopen hspec =>
    cases hspec with
    | close hb _ _ => exact .of_sameHolding (.of_books hb)
    | lockIn l hb _ _ _ _ _ => exact .of_sameHolding (.of_books hb)
  | @failed p percent reason e hsell =>
    have hsame := sameHolding_rowAfterSellError e percent p
    obtain ⟨h₀, h₁⟩ := hpct _ _ rfl
    refine ⟨?_, ?_, fun _ _ _ _ => ⟨p, _, rfl, rfl, hsame⟩, by simp⟩
    · intro qty close result hmem
      simp only [List.mem_singleton, Effect.brokerSell.injEq, true_and] at hmem
      obtain ⟨rfl, -, -⟩ := hmem
      exact ⟨p, rfl, sellQty_nonneg h₀ p, sellQty_le h₁ p⟩
    · intro pos pos' hp hp'
      cases hp
      cases hp'
      rw [hsame.holdings]
  | @sold p percent reason r hsell hlt =>
    obtain ⟨h₀, h₁⟩ := hpct _ _ rfl
    refine ⟨?_, ?_, by simp, by simp⟩
    · intro qty close result hmem
      simp only [List.mem_singleton, Effect.brokerSell.injEq, true_and] at hmem
      obtain ⟨rfl, -, -⟩ := hmem
      exact ⟨p, rfl, sellQty_nonneg h₀ p, sellQty_le h₁ p⟩
    · intro pos pos' hp hp'
      cases hp
      cases hp'
      cases h with
      | held hbooks =>
        exact Amount.fromFloatNative_toFloat_le hbooks.decimals
          (by linarith [sellQty_nonneg h₀ p])
  | @closed p percent reason r entry hsell hge =>
    obtain ⟨h₀, h₁⟩ := hpct _ _ rfl
    refine ⟨?_, by simp, by simp, by simp⟩
    intro qty close result hmem
    simp only [List.mem_cons, Effect.brokerSell.injEq, true_and, reduceCtorEq, List.not_mem_nil,
      or_false] at hmem
    obtain ⟨rfl, -, -⟩ := hmem
    exact ⟨p, rfl, sellQty_nonneg h₀ p, sellQty_le h₁ p⟩
  | abandoned => exact ⟨by simp, by simp, by simp, by simp⟩

/-! ## Steps and runs -/

/-- The percent of a sell of the key. -/
def PositionMessage.sellPercent (key : PositionKey) : PositionMessage → Option ℚ
  | .executeSell k percent _ => if k = key then some percent else none
  | _ => none

/-- The step takes no fill of the key, and a sell of it only with a percent in `[0, 100]`. -/
def System.SellsWithin (key : PositionKey) (s : System) (e : Event) : Prop :=
  ∀ msg ∈ s.taken e, msg.fills key = false ∧ ∀ p ∈ msg.sellPercent key, 0 ≤ p ∧ p ≤ 100

instance (key : PositionKey) (s : System) (e : Event) : Decidable (s.SellsWithin key e) :=
  inferInstanceAs (Decidable (∀ msg ∈ s.taken e, _ ∧ ∀ p ∈ msg.sellPercent key, _ ∧ _))

/-- The sales of a key since an earlier state. -/
def salesSince (key : PositionKey) (s t : System) : List Effect :=
  salesOf key (t.log.drop s.log.length)

theorem salesSince_append {s t : System} {new : List Effect} (h : t.log = s.log ++ new) :
    salesSince key s t = salesOf key new := by
  rw [salesSince, h, List.drop_left]

/-- One step under the guard: the life of the row goes on. -/
theorem RowLife.step {s t : System} {e : Event} (hg : s.SellsWithin key e) (h : s.step e = some t)
    (hlife : RowLife key bought spent (s.row key) sales) :
    (∃ new, t.log = s.log ++ new) ∧
      RowLife key bought spent (t.row key) (sales ++ salesSince key s t) ∧
      SellStep key (s.row key) (t.row key) (salesSince key s t) := by
  rcases row_step h fun msg hmsg => (hg msg hmsg).1 with hidle | hturn
  · obtain ⟨hrow, hlog, -, -⟩ := hidle
    have hlog' : t.log = s.log ++ [] := by rw [hlog, List.append_nil]
    rw [salesSince_append hlog', hrow, salesOf_nil, List.append_nil]
    refine ⟨⟨[], hlog'⟩, hlife, ?_⟩
    cases s.row key with
    | none => exact ⟨by simp, by simp, by simp, fun _ => rfl⟩
    | some p => exact .of_sameHolding ⟨rfl, rfl, rfl, rfl⟩
  · obtain ⟨env, msg, rest, queued, effects, -, htaken, hlog, hturn, -, -⟩ := hturn
    have hpct : ∀ percent reason, msg = .executeSell key percent reason →
        0 ≤ percent ∧ percent ≤ 100 := by
      rintro percent reason rfl
      exact (hg _ htaken).2 percent (by simp [PositionMessage.sellPercent])
    rw [salesSince_append hlog]
    exact ⟨⟨effects, hlog⟩, hlife.turn hturn hpct, hlife.sellStep hturn hpct⟩

theorem rowLife_path {s t : System} {es : List Event}
    (h : manager.Path (System.SellsWithin key) s es t)
    (hlife : RowLife key bought spent (s.row key) []) :
    RowLife key bought spent (t.row key) (salesSince key s t) := by
  have hinv := h.invariant
    (I := fun u => (∃ new, u.log = s.log ++ new) ∧
      RowLife key bought spent (u.row key) (salesSince key s u))
    (fun u e v hu hg hstep => by
      obtain ⟨⟨new, hnew⟩, hlife⟩ := hu
      obtain ⟨⟨more, hmore⟩, hlife', -⟩ := hlife.step hg hstep
      have hlog : v.log = s.log ++ (new ++ more) := by rw [hmore, hnew, List.append_assoc]
      rw [salesSince_append hnew, salesSince_append hmore, ← salesOf_append] at hlife'
      exact ⟨⟨new ++ more, hlog⟩, by rwa [salesSince_append hlog]⟩)
    ⟨⟨[], by simp⟩, by simpa [salesSince] using hlife⟩
  exact hinv.2

/-- The row that a fill opens. -/
theorem openBooks_openedPosition (cfg : SmartBuyConfig) (order : BuyOrder) (pool : Pool)
    (r : BuyReceipt) (now : ℕ) :
    OpenBooks (.fromFloatNative r.tokensReceived) order.amountSol
      (openedPosition cfg order pool r now) [] := by
  obtain ⟨_, _, _, _, _, _, _, _, _, _, _, hopened⟩ := exists_openedPosition cfg order pool r now
  have hi : (openedPosition cfg order pool r now).initialHoldings =
      .fromFloatNative r.tokensReceived := by rw [hopened]; rfl
  have hh : (openedPosition cfg order pool r now).holdings =
      .fromFloatNative r.tokensReceived := by rw [hopened]; rfl
  have hr : (openedPosition cfg order pool r now).totalReturned = 0 := by rw [hopened]; rfl
  have hs : (openedPosition cfg order pool r now).spentSol = order.amountSol := by rw [hopened]
  refine ⟨hi, hs, by rw [hh]; rfl, by rw [hh]; exact roundU64_le _, ?_, ?_, rfl, rfl⟩
  · simp [hh, partSells]
  · simp [hr, partSells]

/-- A fill that is not sold again at once opens its row. -/
theorem lookup_applyBuyResult {m : PositionManagerActor} {env : TurnEnv} {order : BuyOrder}
    {pool : Pool} {r : BuyReceipt} (h : m.abortsFill env order r = false) :
    AList.lookup order.key (m.applyBuyResult env order pool (.ok r)).actor.positions =
      some (openedPosition m.config order pool r (env.clock 0)) := by
  rcases m.applyBuyResult_ok env order pool r with ⟨habort, -⟩ | ⟨-, sold, -, heq⟩
  · rw [h] at habort
    cases habort
  · rw [heq]
    exact AList.lookup_insert _

def smallOrder : BuyOrder := ⟨1, "wallet_1", 1 / 10, none, [], none⟩

/-- A small manager that is about to take a fill of 1000 tokens on mint 1. -/
def filledSystem : System :=
  { System.small oneWallet {} with
    mailbox := [.buyCompleted smallOrder (smallPool 1) (.ok ⟨1 / 10, 1000, none, none⟩)] }

/-- The market cap goes to 45 SOL, a tick queues the first take-profit level, and its sell of 30 %
is taken. -/
def firstLevel : List Event :=
  [.post (.updatePool ⟨1, .fromFloatNative 45⟩), turn, .post .tick, turn, .resume 0 .go, turn]

end Loggaper
