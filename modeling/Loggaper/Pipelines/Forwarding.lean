import Loggaper.Pipelines.Pump

/-!
# The pipeline forwards the admitted events

At every moment the loop has sent on exactly the admitted ones of the events it is done with, the
storage holds what they alone lead to, and a reply that the loop waits for comes with the command's
turn in the mailbox.

Main result: `forwardsAdmitted_of_run`.
-/

namespace Loggaper

/-- The event launches this mint. -/
def PumpEvent.creates (mint : Address) : PumpEvent → Bool
  | .create e => e.mint == mint
  | .trade _ => false

/-- A launch with the right flag, or a trade of a mint whose launch is among `adm`. -/
def admits (mayhem : Bool) (adm : List (Slot × PumpEvent)) : PumpEvent → Bool
  | .create e => e.isMayhemMode == mayhem
  | .trade e => adm.any fun e' => e'.2.creates e.mint

/-- The admitted events of a stream. -/
def admitted (mayhem : Bool) (es : List (Slot × PumpEvent)) : List (Slot × PumpEvent) :=
  es.foldl (fun adm e => if admits mayhem adm e.2 then adm ++ [e] else adm) []

/-- What the loop sends on for an event. A trade comes with the reserves that it leaves. -/
structure Carries (e : Slot × PumpEvent) (o : Slot × Action × TokenBucket) : Prop where
  slot : o.1 = e.1
  action : o.2.1 = e.2.toAction
  reserves : ∀ t, e.2 = .trade t →
    o.2.2.pool.virtualSolReserves = .fromRaw t.virtualSolReserves.toNat 9 ∧
      o.2.2.pool.virtualTokenReserves = .fromRaw t.virtualTokenReserves.toNat precision ∧
      o.2.2.pool.realSolReserves = .fromRaw t.realSolReserves.toNat 9 ∧
      o.2.2.pool.realTokenReserves = .fromRaw t.realTokenReserves.toNat precision

namespace PumpPipeline

section
variable (poolPda : Address → Address) (sniperThreshold : UInt64) (mayhem : Bool)

/-- However the other tasks go on, the reply that the loop waits for comes before the mailbox has
turned over once, and the loop goes on with it. -/
def Settles (s : PumpPipeline) : Prop :=
  ∀ r slot e, s.consumer = .waiting r slot e .pending →
    ∀ fs t, (machine poolPda sniperThreshold mayhem).run s fs = some t →
      s.mailbox.length ≤ fs.count .listen →
      ∃ fs' u, fs' <+: fs ∧ (machine poolPda sniperThreshold mayhem).run s fs' = some u ∧
        (step poolPda mayhem u .resume).isSome = true

/-- **The pipeline forwards exactly the admitted events.** -/
structure ForwardsAdmitted (es : List (Slot × PumpEvent)) (s : PumpPipeline) : Prop where
  forwarded : ∃ done, es = done ++ s.consumer.current ++ s.feed ∧
    List.Forall₂ Carries (admitted mayhem done) s.general ∧
    (s.domain = .afterEvents poolPda sniperThreshold (admitted mayhem done) ∨
      s.domain =
        .afterEvents poolPda sniperThreshold (admitted mayhem (done ++ s.consumer.current)))
  settles : s.Settles poolPda sniperThreshold mayhem
  resumes : ∀ r slot e reply, s.consumer = .waiting r slot e reply → reply ≠ .pending →
    (step poolPda mayhem s .resume).isSome = true
  requests : ∀ r slot e, s.consumer = .sending r slot e →
    (step poolPda mayhem s .request).isSome = true ∨ (step poolPda mayhem s .listen).isSome = true

end

/-! ## Admission and the storage -/

theorem admitted_concat (mayhem : Bool) (es : List (Slot × PumpEvent)) (e : Slot × PumpEvent) :
    admitted mayhem (es ++ [e]) =
      if admits mayhem (admitted mayhem es) e.2 then admitted mayhem es ++ [e]
      else admitted mayhem es := by
  rw [admitted, List.foldl_append]
  rfl

theorem mem_of_mem_admitted (mayhem : Bool) {es : List (Slot × PumpEvent)} :
    ∀ e ∈ admitted mayhem es, e ∈ es := by
  induction es using List.reverseRecOn with
  | nil => exact fun _ h => h
  | append_singleton es e ih =>
    intro e' he'
    rw [admitted_concat] at he'
    split_ifs at he'
    · rcases List.mem_append.mp he' with hold | hnew
      · exact List.mem_append_left _ (ih e' hold)
      · exact List.mem_append_right _ hnew
    · exact List.mem_append_left _ (ih e' he')

section
variable (poolPda : Address → Address) (sniperThreshold : UInt64) {mayhem : Bool}
  {es adm : List (Slot × PumpEvent)}

/-- Distinct mints of the stream have distinct pool addresses. -/
def DistinctPools (es : List (Slot × PumpEvent)) : Prop :=
  Set.InjOn poolPda {mint | ∃ e ∈ es, e.2.mint = mint}

variable {poolPda}

/-- The storage knows the mints that an admitted event has launched. -/
theorem isSome_bucket_iff (hpools : DistinctPools poolPda es) (hadm : ∀ e ∈ adm, e ∈ es)
    {mint : Address} (hmint : ∃ e ∈ es, e.2.mint = mint) :
    ((PumpLaunchpadStorage.afterEvents poolPda sniperThreshold adm).bucket poolPda mint).isSome =
      adm.any fun e => e.2.creates mint := by
  rw [PumpLaunchpadStorage.bucket_afterEvents, Option.isSome_map, isSome_of, Bool.eq_iff_iff,
    List.any_eq_true, List.any_eq_true]
  apply exists_congr
  intro e
  apply and_congr_right
  intro he
  obtain ⟨slot, e⟩ := e
  cases e with
  | create c =>
    simp only [launchAt, PumpEvent.creates, beq_iff_eq]
    constructor
    · exact fun heq => hpools ⟨_, hadm _ he, rfl⟩ hmint heq
    · exact fun heq => congrArg poolPda heq
  | trade t => rfl

/-- **The reaction to one event.** An event that passes the flag is signalled and enters the
storage when it is admitted; otherwise the storage stays and the signal is dropped. -/
theorem react_spec (hpools : DistinctPools poolPda es) (hadm : ∀ e ∈ adm, e ∈ es) {slot : Slot}
    {e : PumpEvent} (he : (slot, e) ∈ es) (hpass : e.filtered mayhem = false) :
    (PumpLaunchpadStorage.afterEvents poolPda sniperThreshold adm).react poolPda slot e =
      if admits mayhem adm e then
        (.afterEvents poolPda sniperThreshold (adm ++ [(slot, e)]), true)
      else (.afterEvents poolPda sniperThreshold adm, false) := by
  rw [PumpLaunchpadStorage.afterEvents_concat]
  cases e with
  | create c =>
    have hflag : admits mayhem adm (.create c) = true := by
      simpa [admits, PumpEvent.filtered] using hpass
    rw [if_pos hflag]
    rfl
  | trade t =>
    have hknown := isSome_bucket_iff sniperThreshold hpools hadm ⟨_, he, rfl⟩
    rw [PumpEvent.mint] at hknown
    rw [admits, ← hknown, PumpLaunchpadStorage.react]
    cases (PumpLaunchpadStorage.afterEvents poolPda sniperThreshold adm).bucket poolPda t.mint <;>
      rfl

/-- After an admitted event its mint has a bucket, and a trade's reserves are in its pool. -/
theorem bucket_spec (hpools : DistinctPools poolPda es) (hadm : ∀ e ∈ adm, e ∈ es) {slot : Slot}
    {e : PumpEvent} (he : (slot, e) ∈ es) (hadmits : admits mayhem adm e = true) :
    ∃ b, (PumpLaunchpadStorage.afterEvents poolPda sniperThreshold
        (adm ++ [(slot, e)])).bucket poolPda e.mint = some b ∧
      Carries (slot, e) (slot, e.toAction, b) := by
  rw [PumpLaunchpadStorage.bucket_afterEvents, TokenHistory.of_concat]
  cases e with
  | create c =>
    refine ⟨_, by rw [TokenHistory.step, PumpEvent.mint, if_pos rfl]; rfl, rfl, rfl, ?_⟩
    intro t ht
    cases ht
  | trade t =>
    have hknown := isSome_bucket_iff sniperThreshold hpools hadm ⟨_, he, rfl⟩
    rw [PumpEvent.mint, PumpLaunchpadStorage.bucket_afterEvents, Option.isSome_map] at hknown
    rw [admits, ← hknown, Option.isSome_iff_exists] at hadmits
    obtain ⟨h, hof⟩ := hadmits
    refine ⟨_, by rw [PumpEvent.mint, hof, TokenHistory.step, if_pos rfl]; rfl, rfl, rfl, ?_⟩
    intro t' ht'
    cases ht'
    rw [TokenHistory.bucket_concat]
    exact ⟨rfl, rfl, rfl, rfl⟩

end

/-! ## The invariant -/

/-- The loop's own commands in the mailbox. -/
def own (s : PumpPipeline) : List PumpLaunchpadCommand :=
  (s.mailbox.filter fun m => m.1 == .pipeline).map Prod.snd

section
variable (poolPda : Address → Address) (sniperThreshold : UInt64) (mayhem : Bool)
  (adm : List (Slot × PumpEvent)) (domain : PumpLaunchpadStorage)

/-- The actor has let an admitted event in. -/
def Entered (slot : Slot) (e : PumpEvent) : Prop :=
  admits mayhem adm e = true ∧ domain = .afterEvents poolPda sniperThreshold (adm ++ [(slot, e)])

/-- What holds when the loop makes a request. -/
def Asks (slot : Slot) (e : PumpEvent) : Request → Prop
  | .event => domain = .afterEvents poolPda sniperThreshold adm ∧ e.filtered mayhem = false
  | .tokenExists | .getBucket => Entered poolPda sniperThreshold mayhem adm domain slot e

/-- What holds when the reply is there. Only the first request can be turned down. -/
def Replied (slot : Slot) (e : PumpEvent) : Request → Oneshot → Prop
  | .event, .sent .finished | .tokenExists, .sent (.tokenExists true) =>
    Entered poolPda sniperThreshold mayhem adm domain slot e
  | .getBucket, .sent (.bucket b) =>
    Entered poolPda sniperThreshold mayhem adm domain slot e ∧ domain.bucket poolPda e.mint = some b
  | .event, .dropped =>
    domain = .afterEvents poolPda sniperThreshold adm ∧ admits mayhem adm e = false
  | _, _ => False

/-- What holds at each point of the loop, with its commands in the mailbox. -/
def Stands (own : List PumpLaunchpadCommand) : Consumer → Prop
  | .recv => domain = .afterEvents poolPda sniperThreshold adm ∧ own = []
  | .sending r slot e => Asks poolPda sniperThreshold mayhem adm domain slot e r ∧ own = []
  | .waiting r slot e .pending =>
    Asks poolPda sniperThreshold mayhem adm domain slot e r ∧ own = [r.command slot e]
  | .waiting r slot e reply =>
    Replied poolPda sniperThreshold mayhem adm domain slot e r reply ∧ own = []
  | .forwarding slot e b =>
    (Entered poolPda sniperThreshold mayhem adm domain slot e ∧
      domain.bucket poolPda e.mint = some b) ∧ own = []

end

section
variable (poolPda : Address → Address) (sniperThreshold : UInt64) (mayhem : Bool)
  (es : List (Slot × PumpEvent))

/-- The invariant of the pipeline, after the events `done`. -/
structure InvAt (done : List (Slot × PumpEvent)) (s : PumpPipeline) : Prop where
  stream : es = done ++ s.consumer.current ++ s.feed
  forwarded : List.Forall₂ Carries (admitted mayhem done) s.general
  stands : Stands poolPda sniperThreshold mayhem (admitted mayhem done) s.domain s.own s.consumer
  queries : ∀ m ∈ s.mailbox, m.1 = .client → m.2.isQuery = true

def Inv (s : PumpPipeline) : Prop := ∃ done, InvAt poolPda sniperThreshold mayhem es done s

end

section
variable {poolPda : Address → Address} {sniperThreshold : UInt64} {mayhem : Bool}
  {es done : List (Slot × PumpEvent)} {s t : PumpPipeline}

theorem inv_init : Inv poolPda sniperThreshold mayhem es (.init sniperThreshold es) :=
  ⟨[], ⟨rfl, .nil, ⟨rfl, rfl⟩, by simp [init]⟩⟩

theorem inv_recv (h : InvAt poolPda sniperThreshold mayhem es done s)
    (hs : step poolPda mayhem s .recv = some t) : Inv poolPda sniperThreshold mayhem es t := by
  obtain ⟨hstream, hforwarded, hstands, hqueries⟩ := h
  obtain ⟨feed, mailbox, domain, consumer, general⟩ := s
  cases consumer with
  | sending r slot e => cases hs
  | waiting r slot e reply => cases hs
  | forwarding slot e b => cases hs
  | recv =>
    cases feed with
    | nil => cases hs
    | cons head rest =>
      obtain ⟨slot, e⟩ := head
      cases hs
      obtain ⟨hdomain, hown⟩ := hstands
      by_cases hpass : e.filtered mayhem = true
      · -- a filtered launch is done at once
        have hadmits : admits mayhem (admitted mayhem done) e = false := by
          cases e with
          | create c => simpa [admits, PumpEvent.filtered] using hpass
          | trade t => cases hpass
        refine ⟨done ++ [(slot, e)], ?_, ?_, ?_, hqueries⟩
        · simpa [hpass, Consumer.current] using hstream
        · rw [admitted_concat, hadmits]
          exact hforwarded
        · rw [admitted_concat, hadmits, if_pos hpass]
          exact ⟨hdomain, hown⟩
      · refine ⟨done, ?_, hforwarded, ?_, hqueries⟩
        · simpa [hpass, Consumer.current] using hstream
        · rw [if_neg hpass]
          exact ⟨⟨hdomain, by simpa using hpass⟩, hown⟩

theorem inv_request (h : InvAt poolPda sniperThreshold mayhem es done s)
    (hs : step poolPda mayhem s .request = some t) :
    Inv poolPda sniperThreshold mayhem es t := by
  obtain ⟨hstream, hforwarded, hstands, hqueries⟩ := h
  obtain ⟨feed, mailbox, domain, consumer, general⟩ := s
  cases consumer with
  | recv => cases hs
  | waiting r slot e reply => cases hs
  | forwarding slot e b => cases hs
  | sending r slot e =>
    simp only [step] at hs
    split_ifs at hs with hroom
    cases hs
    obtain ⟨hasks, hown⟩ := hstands
    refine ⟨done, hstream, hforwarded, ⟨hasks, ?_⟩, ?_⟩
    · simp only [own] at hown ⊢
      rw [List.filter_append, List.map_append, hown]
      rfl
    · intro m hm hclient
      rcases List.mem_append.mp hm with hold | hnew
      · exact hqueries m hold hclient
      · rw [List.mem_singleton.mp hnew] at hclient
        cases hclient

theorem inv_client (h : InvAt poolPda sniperThreshold mayhem es done s)
    {c : PumpLaunchpadCommand} (hs : step poolPda mayhem s (.client c) = some t) :
    Inv poolPda sniperThreshold mayhem es t := by
  obtain ⟨hstream, hforwarded, hstands, hqueries⟩ := h
  simp only [step] at hs
  split_ifs at hs with hroom
  cases hs
  refine ⟨done, hstream, hforwarded, ?_, ?_⟩
  · have hown : own { s with mailbox := s.mailbox ++ [(.client, c)] } = s.own := by
      rw [own, List.filter_append, List.map_append]
      exact List.append_nil _
    rw [hown]
    exact hstands
  · intro m hm hclient
    rcases List.mem_append.mp hm with hold | hnew
    · exact hqueries m hold hclient
    · rw [List.mem_singleton.mp hnew]
      exact hroom.1

/-- A query leaves the storage as it is. -/
theorem listen_of_isQuery {c : PumpLaunchpadCommand} (hc : c.isQuery = true)
    (domain : PumpLaunchpadStorage) : (domain.listen poolPda c).1 = domain := by
  cases c with
  | event slot e => cases hc
  | getMint ammPool => rfl
  | getBucket mint => rfl
  | tokenExists mint => rfl

/-- **The reply to a request.** -/
theorem replied_of_asks (hpools : DistinctPools poolPda es)
    {adm : List (Slot × PumpEvent)} (hadm : ∀ e ∈ adm, e ∈ es) {domain : PumpLaunchpadStorage}
    {slot : Slot} {e : PumpEvent} (he : (slot, e) ∈ es) {r : Request}
    (hasks : Asks poolPda sniperThreshold mayhem adm domain slot e r) :
    Replied poolPda sniperThreshold mayhem adm (domain.listen poolPda (r.command slot e)).1 slot e r
      ((domain.listen poolPda (r.command slot e)).2.elim .dropped .sent) := by
  cases r with
  | event =>
    obtain ⟨rfl, hpass⟩ := hasks
    have hreact := react_spec sniperThreshold hpools hadm he hpass
    simp only [Request.command, PumpLaunchpadStorage.listen, hreact]
    by_cases hadmits : admits mayhem adm e = true
    · rw [if_pos hadmits]
      exact ⟨hadmits, rfl⟩
    · rw [if_neg hadmits]
      exact ⟨rfl, by simpa using hadmits⟩
  | tokenExists =>
    obtain ⟨hadmits, rfl⟩ := hasks
    obtain ⟨b, hbucket, -⟩ := bucket_spec sniperThreshold hpools hadm he hadmits
    simp only [Request.command, PumpLaunchpadStorage.listen, hbucket]
    exact ⟨hadmits, rfl⟩
  | getBucket =>
    obtain ⟨hadmits, rfl⟩ := hasks
    obtain ⟨b, hbucket, -⟩ := bucket_spec sniperThreshold hpools hadm he hadmits
    simp only [Request.command, PumpLaunchpadStorage.listen, hbucket]
    exact ⟨⟨hadmits, rfl⟩, hbucket⟩

/-- The event in the loop is one of the stream. -/
theorem InvAt.current_mem (h : InvAt poolPda sniperThreshold mayhem es done s) :
    ∀ e ∈ s.consumer.current, e ∈ es := by
  intro e he
  rw [h.stream, List.append_assoc]
  exact List.mem_append_right _ (List.mem_append_left _ he)

theorem InvAt.mem_admitted (h : InvAt poolPda sniperThreshold mayhem es done s) :
    ∀ e ∈ admitted mayhem done, e ∈ es := by
  intro e he
  rw [h.stream, List.append_assoc]
  exact List.mem_append_left _ (mem_of_mem_admitted mayhem e he)

/-- Only a loop that waits has a command in the mailbox. -/
theorem Stands.waiting {adm : List (Slot × PumpEvent)} {domain : PumpLaunchpadStorage}
    {c : PumpLaunchpadCommand} {cs : List PumpLaunchpadCommand} {consumer : Consumer}
    (h : Stands poolPda sniperThreshold mayhem adm domain (c :: cs) consumer) :
    ∃ r slot e, consumer = .waiting r slot e .pending ∧ c = r.command slot e ∧ cs = [] ∧
      Asks poolPda sniperThreshold mayhem adm domain slot e r := by
  cases consumer with
  | recv => cases h.2
  | sending r slot e => cases h.2
  | forwarding slot e b => cases h.2
  | waiting r slot e reply =>
    cases reply with
    | pending =>
      obtain ⟨hasks, hown⟩ := h
      obtain ⟨rfl, rfl⟩ := List.cons.inj hown
      exact ⟨r, slot, e, rfl, rfl, rfl, hasks⟩
    | sent a => cases h.2
    | dropped => cases h.2

theorem Replied.stands {adm : List (Slot × PumpEvent)} {domain : PumpLaunchpadStorage} {r : Request}
    {slot : Slot} {e : PumpEvent} {reply : Oneshot}
    (h : Replied poolPda sniperThreshold mayhem adm domain slot e r reply) :
    Stands poolPda sniperThreshold mayhem adm domain [] (.waiting r slot e reply) := by
  cases reply with
  | pending => cases r <;> exact h.elim
  | sent a => exact ⟨h, rfl⟩
  | dropped => exact ⟨h, rfl⟩

theorem inv_listen (hpools : DistinctPools poolPda es)
    (h : InvAt poolPda sniperThreshold mayhem es done s)
    (hs : step poolPda mayhem s .listen = some t) : Inv poolPda sniperThreshold mayhem es t := by
  have hmem := h.current_mem
  have hadm := h.mem_admitted
  obtain ⟨hstream, hforwarded, hstands, hqueries⟩ := h
  obtain ⟨feed, mailbox, domain, consumer, general⟩ := s
  cases mailbox with
  | nil => cases hs
  | cons head rest =>
    obtain ⟨sender, command⟩ := head
    cases hs
    have hrest : ∀ m ∈ rest, m.1 = .client → m.2.isQuery = true :=
      fun m hm => hqueries m (List.mem_cons_of_mem _ hm)
    cases sender with
    | client =>
      have hquery := hqueries _ (List.mem_cons_self ..) rfl
      refine ⟨done, hstream, hforwarded, ?_, hrest⟩
      show Stands _ _ _ _ (domain.listen poolPda command).1 _ consumer
      rw [listen_of_isQuery hquery]
      exact hstands
    | pipeline =>
      obtain ⟨r, slot, e, rfl, rfl, hown, hasks⟩ := Stands.waiting hstands
      refine ⟨done, hstream, hforwarded, ?_, hrest⟩
      have hreplied := replied_of_asks hpools hadm (hmem _ (List.mem_singleton_self _)) hasks
      have hempty : own { feed, mailbox := rest, domain, consumer := .recv, general } = [] := hown
      show Stands _ _ _ _ _ (own { feed, mailbox := rest, domain, consumer := .recv, general }) _
      rw [hempty]
      exact hreplied.stands

/-- **The loop goes on after a reply**: it drops an event that was not admitted, or it makes the
next request for it. -/
theorem Replied.resume {adm : List (Slot × PumpEvent)} {domain : PumpLaunchpadStorage} {r : Request}
    {slot : Slot} {e : PumpEvent} {reply : Oneshot}
    (h : Replied poolPda sniperThreshold mayhem adm domain slot e r reply) :
    ∃ next, (Consumer.waiting r slot e reply).resume = some next ∧
      ((next = .recv ∧ domain = .afterEvents poolPda sniperThreshold adm ∧
          admits mayhem adm e = false) ∨
        (next.current = [(slot, e)] ∧
          Stands poolPda sniperThreshold mayhem adm domain [] next)) := by
  cases r with
  | event =>
    cases reply with
    | pending => exact h.elim
    | dropped => exact ⟨_, rfl, .inl ⟨rfl, h⟩⟩
    | sent a =>
      cases a with
      | finished => exact ⟨_, rfl, .inr ⟨rfl, h, rfl⟩⟩
      | mint m => exact h.elim
      | bucket b => exact h.elim
      | tokenExists known => exact h.elim
  | tokenExists =>
    cases reply with
    | pending => exact h.elim
    | dropped => exact h.elim
    | sent a =>
      cases a with
      | tokenExists known =>
        cases known with
        | true => exact ⟨_, rfl, .inr ⟨rfl, h, rfl⟩⟩
        | false => exact h.elim
      | finished => exact h.elim
      | mint m => exact h.elim
      | bucket b => exact h.elim
  | getBucket =>
    cases reply with
    | pending => exact h.elim
    | dropped => exact h.elim
    | sent a =>
      cases a with
      | bucket b => exact ⟨_, rfl, .inr ⟨rfl, h, rfl⟩⟩
      | finished => exact h.elim
      | mint m => exact h.elim
      | tokenExists known => exact h.elim

theorem Stands.replied {adm : List (Slot × PumpEvent)} {domain : PumpLaunchpadStorage}
    {cs : List PumpLaunchpadCommand} {r : Request} {slot : Slot} {e : PumpEvent} {reply : Oneshot}
    (h : Stands poolPda sniperThreshold mayhem adm domain cs (.waiting r slot e reply))
    (hne : reply ≠ .pending) :
    Replied poolPda sniperThreshold mayhem adm domain slot e r reply ∧ cs = [] := by
  cases reply with
  | pending => exact absurd rfl hne
  | sent a => exact h
  | dropped => exact h

theorem inv_resume (h : InvAt poolPda sniperThreshold mayhem es done s)
    (hs : step poolPda mayhem s .resume = some t) : Inv poolPda sniperThreshold mayhem es t := by
  obtain ⟨hstream, hforwarded, hstands, hqueries⟩ := h
  obtain ⟨feed, mailbox, domain, consumer, general⟩ := s
  obtain ⟨next, hnext, rfl⟩ := Option.map_eq_some_iff.mp hs
  cases consumer with
  | recv => cases hnext
  | sending r slot e => cases hnext
  | forwarding slot e b => cases hnext
  | waiting r slot e reply =>
    have hne : reply ≠ .pending := by
      intro hpending
      subst hpending
      cases r <;> cases hnext
    obtain ⟨hreplied, hown⟩ := Stands.replied hstands hne
    obtain ⟨next', hnext', hcases⟩ := hreplied.resume
    cases hnext.symm.trans hnext'
    rcases hcases with ⟨rfl, hdomain, hadmits⟩ | ⟨hcurrent, hstands'⟩
    · refine ⟨done ++ [(slot, e)], ?_, ?_, ?_, hqueries⟩
      · simpa [Consumer.current] using hstream
      · rw [admitted_concat, hadmits]
        exact hforwarded
      · rw [admitted_concat, hadmits]
        exact ⟨hdomain, hown⟩
    · refine ⟨done, ?_, hforwarded, ?_, hqueries⟩
      · rw [hstream, hcurrent]
        rfl
      · show Stands _ _ _ _ _ (own { feed, mailbox, domain, consumer := .recv, general }) _
        have hempty : own { feed, mailbox, domain, consumer := .recv, general } = [] := hown
        rw [hempty]
        exact hstands'

theorem inv_forward (hpools : DistinctPools poolPda es)
    (h : InvAt poolPda sniperThreshold mayhem es done s)
    (hs : step poolPda mayhem s .forward = some t) :
    Inv poolPda sniperThreshold mayhem es t := by
  have hmem := h.current_mem
  have hadm := h.mem_admitted
  obtain ⟨hstream, hforwarded, hstands, hqueries⟩ := h
  obtain ⟨feed, mailbox, domain, consumer, general⟩ := s
  cases consumer with
  | recv => cases hs
  | sending r slot e => cases hs
  | waiting r slot e reply => cases hs
  | forwarding slot e b =>
    cases hs
    obtain ⟨⟨⟨hadmits, hdomain⟩, hbucket⟩, hown⟩ := hstands
    obtain ⟨b', hbucket', hcarries⟩ :=
      bucket_spec sniperThreshold hpools hadm (hmem _ (List.mem_singleton_self _)) hadmits
    have hsame : b' = b := by
      rw [← hdomain, hbucket] at hbucket'
      exact (Option.some.inj hbucket').symm
    subst hsame
    refine ⟨done ++ [(slot, e)], ?_, ?_, ?_, hqueries⟩
    · simpa [Consumer.current] using hstream
    · rw [admitted_concat, if_pos hadmits]
      exact List.rel_append hforwarded (.cons hcarries .nil)
    · rw [admitted_concat, if_pos hadmits]
      exact ⟨hdomain, hown⟩

/-- **Every step keeps the invariant.** -/
theorem inv_step (hpools : DistinctPools poolPda es) {c : PipelineStep}
    (h : Inv poolPda sniperThreshold mayhem es s) (hs : step poolPda mayhem s c = some t) :
    Inv poolPda sniperThreshold mayhem es t := by
  obtain ⟨done, h⟩ := h
  cases c with
  | recv => exact inv_recv h hs
  | request => exact inv_request h hs
  | listen => exact inv_listen hpools h hs
  | resume => exact inv_resume h hs
  | forward => exact inv_forward hpools h hs
  | client c => exact inv_client h hs

theorem inv_run (hpools : DistinctPools poolPda es) {steps : List PipelineStep}
    (h : Inv poolPda sniperThreshold mayhem es s)
    (hrun : (machine poolPda sniperThreshold mayhem).run s steps = some t) :
    Inv poolPda sniperThreshold mayhem es t :=
  (Machine.Path.of_run hrun).invariant (I := Inv poolPda sniperThreshold mayhem es)
    (fun _ _ _ hs _ hstep => inv_step hpools hs hstep) h

/-! ## Progress -/

variable (poolPda sniperThreshold mayhem) in
/-- At some point of the run `fs` the reply of the request is there. -/
def Answered (s : PumpPipeline) (fs : List PipelineStep) (r : Request) (slot : Slot)
    (e : PumpEvent) : Prop :=
  ∃ fs' u reply, fs' <+: fs ∧ (machine poolPda sniperThreshold mayhem).run s fs' = some u ∧
    u.consumer = .waiting r slot e reply ∧ reply ≠ .pending

theorem Answered.cons {r : Request} {slot : Slot} {e : PumpEvent} {x : PipelineStep}
    {fs : List PipelineStep} (hstep : step poolPda mayhem s x = some t)
    (h : Answered poolPda sniperThreshold mayhem t fs r slot e) :
    Answered poolPda sniperThreshold mayhem s (x :: fs) r slot e := by
  obtain ⟨fs', u, reply, hlonger, hu, hreply⟩ := h
  exact ⟨x :: fs', u, reply, List.cons_prefix_cons.mpr ⟨rfl, hlonger⟩,
    (Machine.run_cons _ hstep fs').trans hu, hreply⟩

/-- **A command is answered in its turn.** Each turn of the actor brings the loop's command closer
to the head, and no other task puts one before it. -/
theorem answered_in_turn {r : Request} {slot : Slot} {e : PumpEvent} {c : PumpLaunchpadCommand}
    {before rest : List (Sender × PumpLaunchpadCommand)} {fs : List PipelineStep}
    (hconsumer : s.consumer = .waiting r slot e .pending)
    (hmailbox : s.mailbox = before ++ (.pipeline, c) :: rest)
    (hbefore : ∀ m ∈ before, m.1 = .client)
    (hrun : (machine poolPda sniperThreshold mayhem).run s fs = some t)
    (hcount : before.length < fs.count .listen) :
    Answered poolPda sniperThreshold mayhem s fs r slot e := by
  induction fs generalizing s before rest with
  | nil => simp at hcount
  | cons x fs ih =>
    simp only [Machine.run, Option.bind_eq_some_iff] at hrun
    obtain ⟨s', hstep, hrun⟩ := hrun
    have hstep : step poolPda mayhem s x = some s' := hstep
    obtain ⟨feed, mailbox, domain, consumer, general⟩ := s
    cases hconsumer
    cases hmailbox
    cases x with
    | recv => cases hstep
    | request => cases hstep
    | forward => cases hstep
    | resume => cases r <;> cases hstep
    | client c' =>
      apply Answered.cons hstep
      have hcount : before.length < fs.count .listen := by simpa using hcount
      simp only [step] at hstep
      split_ifs at hstep
      cases hstep
      exact ih rfl (List.append_assoc before _ _) hbefore hrun hcount
    | listen =>
      cases before with
      | nil =>
        refine ⟨[.listen], s', (domain.listen poolPda c).2.elim .dropped .sent,
          List.prefix_append [.listen] fs, Machine.run_cons _ hstep [], ?_, ?_⟩
        · cases hstep
          rfl
        · cases (domain.listen poolPda c).2 <;> simp
      | cons m before =>
        apply Answered.cons hstep
        have hcount' : before.length < fs.count .listen := by simpa using hcount
        have hclient := hbefore m (List.mem_cons_self ..)
        obtain ⟨sender, command⟩ := m
        cases hclient
        cases hstep
        exact ih rfl rfl (fun m hm => hbefore m (List.mem_cons_of_mem _ hm)) hrun hcount'

theorem Inv.resumes (h : Inv poolPda sniperThreshold mayhem es s) {r : Request} {slot : Slot}
    {e : PumpEvent} {reply : Oneshot} (hconsumer : s.consumer = .waiting r slot e reply)
    (hne : reply ≠ .pending) : (step poolPda mayhem s .resume).isSome = true := by
  obtain ⟨done, h⟩ := h
  have hstands := h.stands
  rw [hconsumer] at hstands
  obtain ⟨next, hnext, -⟩ := (hstands.replied hne).1.resume
  rw [step, hconsumer, hnext]
  rfl

theorem Inv.settles (hpools : DistinctPools poolPda es)
    (h : Inv poolPda sniperThreshold mayhem es s) :
    s.Settles poolPda sniperThreshold mayhem := by
  intro r slot e hconsumer fs t hrun hlen
  obtain ⟨done, hat⟩ := h
  have hstands := hat.stands
  rw [hconsumer] at hstands
  obtain ⟨_, hown⟩ := hstands
  obtain ⟨m, hfilter, hm⟩ := List.map_eq_singleton_iff.mp hown
  obtain ⟨before, rest, hmailbox, hbefore, hsender, -⟩ := List.filter_eq_cons_iff.mp hfilter
  have hclients : ∀ m ∈ before, m.1 = .client := by
    intro m hm
    have hnot := hbefore m hm
    cases hsender : m.1 with
    | client => rfl
    | pipeline => exact absurd (by rw [hsender]; rfl) hnot
  obtain ⟨sender, command⟩ := m
  have hsender : sender = .pipeline := beq_iff_eq.mp hsender
  subst hsender
  have hcount : before.length < fs.count .listen := by
    rw [hmailbox, List.length_append, List.length_cons] at hlen
    omega
  obtain ⟨fs', u, reply, hlonger, hu, hreply, hne⟩ :=
    answered_in_turn hconsumer hmailbox hclients hrun hcount
  exact ⟨fs', u, hlonger, hu, (inv_run hpools ⟨done, hat⟩ hu).resumes hreply hne⟩

/-- The storage holds what the admitted events lead to, with the event in the loop or without. -/
theorem Stands.entered {adm : List (Slot × PumpEvent)} {domain : PumpLaunchpadStorage}
    {cs : List PumpLaunchpadCommand} {consumer : Consumer}
    (h : Stands poolPda sniperThreshold mayhem adm domain cs consumer) :
    domain = .afterEvents poolPda sniperThreshold adm ∨
      ∃ slot e, consumer.current = [(slot, e)] ∧
        Entered poolPda sniperThreshold mayhem adm domain slot e := by
  have asks : ∀ {r slot e}, Asks poolPda sniperThreshold mayhem adm domain slot e r →
      domain = .afterEvents poolPda sniperThreshold adm ∨
        Entered poolPda sniperThreshold mayhem adm domain slot e := by
    intro r slot e hasks
    cases r with
    | event => exact .inl hasks.1
    | tokenExists => exact .inr hasks
    | getBucket => exact .inr hasks
  have replied : ∀ {r slot e reply},
      Replied poolPda sniperThreshold mayhem adm domain slot e r reply →
      domain = .afterEvents poolPda sniperThreshold adm ∨
        Entered poolPda sniperThreshold mayhem adm domain slot e := by
    intro r slot e reply hreplied
    unfold Replied at hreplied
    split at hreplied
    · exact .inr hreplied
    · exact .inr hreplied
    · exact .inr hreplied.1
    · exact .inl hreplied.1
    · exact hreplied.elim
  cases consumer with
  | recv => exact .inl h.1
  | sending r slot e => exact (asks h.1).imp_right fun hin => ⟨slot, e, rfl, hin⟩
  | forwarding slot e b => exact .inr ⟨slot, e, rfl, h.1.1⟩
  | waiting r slot e reply =>
    cases reply with
    | pending => exact (asks h.1).imp_right fun hin => ⟨slot, e, rfl, hin⟩
    | sent a => exact (replied h.1).imp_right fun hin => ⟨slot, e, rfl, hin⟩
    | dropped => exact (replied h.1).imp_right fun hin => ⟨slot, e, rfl, hin⟩

end

/-- A launch of the other kind: mint 9 in mayhem mode. -/
def mayhemLaunch : PumpEvent := .create ⟨"", "", "", 9, 8, 8, true, 0⟩

/-- Two launches, one of them filtered, and a trade of each mint. -/
def mixedStream : List (Slot × PumpEvent) :=
  [(100, launchOfSeven), (100, mayhemLaunch), (101, .trade (tradeOfSeven true 9 5 1)),
    (101, .trade { tradeOfSeven true 9 5 1 with mint := 9 })]

/-- An admitted event, with a query of another task before each answer. -/
def roundTrips : List PipelineStep :=
  [.recv, .client (.getMint 7), .request, .listen, .listen, .resume,
    .client (.tokenExists 9), .request, .listen, .listen, .resume,
    .client (.getBucket 9), .request, .listen, .listen, .resume, .forward]

end PumpPipeline

end Loggaper
