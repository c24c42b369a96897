import MiniGdbstub.Lifecycle

/-!
# Nothing is lost, and nothing is given back twice

Everything that is held has one holder: the stub, the reader thread, the queue or the main thread
(`Process.owned`).  Every step hands things on or takes one of them out of the world, so the ledger
accounts for just these, whatever the interleaving; in particular nothing is used, released or
followed that was released before (`run_sound`), the pointer of `strtok` apart.  When the main
thread is outside, none of the holders is left (`Process.Sound.outside`).
-/

namespace MiniGdbstub.Lifecycle

open Ledger LinkedList

/-! ## Who holds what -/

/-- What the reader thread holds. -/
def ReaderThread.handles (thread : ReaderThread) : Multiset ℕ :=
  {thread.tid} +
    match thread.point with
    | .starting => 0
    | .pushing pkt => Ledger.handles thread.data + {pkt}
    | .signalling => 0
    | .finished => 0
    | _ => Ledger.handles thread.data

/-- What the main thread holds: the packet in its hand. -/
def Process.inHand (process : Process) : Multiset ℕ :=
  match process.main with
  | .releasing node => Ledger.handles ((process.queue.nodes node).map Node.value)
  | .holding pkt => {pkt}
  | .serving pkt => {pkt}
  | .handled pkt => {pkt}
  | _ => 0

/-- What is held, by its holder, with these packets in the queue. -/
def Process.owned (process : Process) (packets : List ℕ) : Multiset ℕ :=
  process.priv.elim 0 Private.handles + process.thread.elim 0 ReaderThread.handles + packets +
    process.inHand + process.lost

/-- Can there be a reader thread? -/
def MainPoint.threaded : MainPoint → Bool
  | .outside => false
  | .destroying _ => false
  | _ => true

/-- Where the threads are goes with what there is: the nodes at these addresses are a list of these
packets, and there are no others. -/
structure Process.Controlled (process : Process) (addrs packets : List ℕ) : Prop where
  used : process.misused = false
  priv : process.priv = none ↔ process.main = .outside
  thread : process.thread.isSome → process.main.threaded
  joining : process.main = .joining → process.thread.isSome ∧ process.threadStop
  outside : process.main = .outside → addrs = [] ∧ packets = []
  destroying : ∀ node, process.main = .destroying node →
    Chain process.queue.nodes node addrs packets
  queue : process.main.threaded → Represents process.queue addrs
    { packets := packets
      shutdown := process.queue.shutdown
      interrupted := process.queue.interrupted }
  releasing : ∀ node, process.main = .releasing node →
    node ∉ addrs ∧ ∃ value, process.queue.nodes node = some value
  stray : ∀ addr, process.queue.nodes addr ≠ none → addr ∈ addrs ∨ process.main = .releasing addr
  buffer : ∀ thread ∈ process.thread, thread.data = none → thread.size < 2 ^ thread.cap

/-- The process goes on to one that holds what it should, and has lost so many blocks. -/
def Process.Goes (process : Process) (losses : ℕ) (next : Process) (owned : Multiset ℕ) : Prop :=
  ∃ addrs packets, next.Controlled addrs packets ∧ next.owned packets = owned ∧
    next.lost.card = process.lost.card + losses

/-- The law of the process. -/
def Process.Sound (process : Process) : Prop :=
  ∃ addrs packets, process.Controlled addrs packets ∧
    process.ledger.Accounts (process.owned packets)

variable {process : Process} {addrs packets : List ℕ}

/-- Nothing that is said about the process is about its ledger alone. -/
theorem Process.Controlled.ledger (hcontrolled : process.Controlled addrs packets)
    (ledger : Ledger) : Process.Controlled { process with ledger := ledger } addrs packets :=
  { hcontrolled with }

theorem perform_sound {effect : Effect Process} {losses : ℕ}
    (haccounts : process.ledger.Accounts (process.owned packets))
    (hends : Ends effect (process.owned packets) (process.Goes losses)) :
    (process.perform effect).Sound ∧
      (process.perform effect).lost.card = process.lost.card + losses := by
  obtain ⟨next, ledger, owned, hrun, hledger, addrs, packets, hcontrolled, rfl, hlost⟩ :=
    hends process.ledger haccounts
  rw [Process.perform, hrun]
  exact ⟨⟨addrs, packets, hcontrolled.ledger ledger, hledger⟩, hlost⟩

/-! ## Uses -/

theorem checked_ok {α : Type} (value : α) : checked (.ok value) = pure value :=
  rfl

/-- Where there is something to do for the threads, there is `gdbstub->priv`. -/
theorem Process.Controlled.exists_priv (hcontrolled : process.Controlled addrs packets)
    (hmain : process.main ≠ .outside) : ∃ priv, process.priv = some priv :=
  Option.ne_none_iff_exists'.mp fun hnone => hmain (hcontrolled.priv.mp hnone)

/-- What is used is held. -/
theorem Process.Controlled.withPriv_ends (hcontrolled : process.Controlled addrs packets)
    (hmain : process.main ≠ .outside) {uses : Private → List ℕ}
    (huses : ∀ priv, ∀ handle ∈ uses priv, handle ∈ priv.handles)
    {body : Private → Effect Process} {post : Process → Multiset ℕ → Prop}
    (hbody : ∀ priv, process.priv = some priv → Ends (body priv) (process.owned packets) post) :
    Ends (process.withPriv uses body) (process.owned packets) post := by
  obtain ⟨priv, hpriv⟩ := hcontrolled.exists_priv hmain
  have hmem : ∀ handle ∈ uses priv, handle ∈ process.owned packets := by
    intro handle hhandle
    have hheld := huses priv handle hhandle
    simp [Process.owned, hpriv, hheld]
  rw [Process.withPriv, hpriv]
  exact Ends.uses hmem (hbody priv hpriv)

theorem Private.uses_mem (priv : Private) : ∀ handle ∈ priv.uses, handle ∈ priv.handles := by
  intro handle hmem
  rw [List.mem_singleton.mp hmem]
  simp [Private.handles]

theorem Private.queueUses_mem (priv : Private) :
    ∀ handle ∈ priv.queueUses, handle ∈ priv.handles := by
  intro handle hmem
  simp only [Private.queueUses, List.mem_cons, List.not_mem_nil, or_false] at hmem
  rcases hmem with rfl | rfl | rfl <;> simp [Private.handles, QueueLocks.handles]

theorem Private.readUses_mem (priv : Private) :
    ∀ handle ∈ priv.readUses, handle ∈ priv.handles := by
  intro handle hmem
  simp only [Private.readUses, List.mem_cons, List.not_mem_nil, or_false] at hmem
  rcases hmem with rfl | rfl <;> simp [Private.handles, Conn.handles]

theorem Private.sendUses_mem (priv : Private) :
    ∀ handle ∈ priv.sendUses, handle ∈ priv.handles := by
  intro handle hmem
  simp only [Private.sendUses, List.mem_cons, List.not_mem_nil, or_false] at hmem
  rcases hmem with rfl | rfl | rfl <;> simp [Private.handles, Conn.handles]

/-- The flags are whatever they are. -/
theorem represents_flags {queue : LinkedPktqueue ℕ} {found : Pktqueue ℕ}
    (hqueue : Represents queue addrs found) :
    Represents queue addrs
      { packets := found.packets
        shutdown := queue.shutdown
        interrupted := queue.interrupted } :=
  ⟨hqueue.chain, hqueue.tail, rfl, rfl⟩

/-! ## Steps of the main thread -/

/-- Is the main thread in `gdbstub_run`, without a node in its hand, or about to call it? -/
def MainPoint.inside : MainPoint → Bool
  | .outside => false
  | .releasing _ => false
  | .joining => false
  | .destroying _ => false
  | _ => true

theorem MainPoint.inside_after (goesOn : Bool) : (MainPoint.after goesOn).inside = true := by
  cases goesOn with
  | false => rfl
  | true => rfl

theorem MainPoint.threaded_of_inside {main : MainPoint} (hinside : main.inside = true) :
    main.threaded = true := by
  cases main with
  | outside => exact hinside
  | destroying node => exact hinside
  | _ => rfl

theorem MainPoint.ne_of_inside {main : MainPoint} (hinside : main.inside = true) :
    main ≠ .outside ∧ main ≠ .joining ∧ (∀ node, main ≠ .releasing node) ∧
      ∀ node, main ≠ .destroying node := by
  refine ⟨?_, ?_, fun node => ?_, fun node => ?_⟩
  all_goals
    rintro rfl
    cases hinside

/-- The main thread goes on inside. -/
theorem Process.Controlled.inside (hcontrolled : process.Controlled addrs packets)
    (hfrom : process.main.inside = true) {main : MainPoint} (hto : main.inside = true) :
    Process.Controlled { process with main := main } addrs packets := by
  obtain ⟨houtside, hjoining, hreleasing, hdestroying⟩ := MainPoint.ne_of_inside hto
  exact
    { used := hcontrolled.used
      priv := by
        refine ⟨fun hnone => ?_, fun hmain => absurd hmain houtside⟩
        exact absurd (hcontrolled.priv.mp hnone) (MainPoint.ne_of_inside hfrom).1
      thread := fun _ => MainPoint.threaded_of_inside hto
      joining := fun hmain => absurd hmain hjoining
      outside := fun hmain => absurd hmain houtside
      destroying := fun node hmain => absurd hmain (hdestroying node)
      queue := fun _ => hcontrolled.queue (MainPoint.threaded_of_inside hfrom)
      releasing := fun node hmain => absurd hmain (hreleasing node)
      stray := fun addr hnode => (hcontrolled.stray addr hnode).imp_right fun hmain =>
        absurd hmain ((MainPoint.ne_of_inside hfrom).2.2.1 addr)
      buffer := hcontrolled.buffer }

/-- Before the first thread and after the last. -/
theorem Process.Controlled.thread_eq_none (hcontrolled : process.Controlled addrs packets)
    (hmain : process.main.threaded = false) : process.thread = none := by
  cases hthread : process.thread with
  | none => rfl
  | some thread =>
      have hthreaded := hcontrolled.thread (by rw [hthread]; rfl)
      rw [hmain] at hthreaded
      cases hthreaded

theorem Process.Controlled.init_ends (hcontrolled : process.Controlled addrs packets)
    (hmain : process.main = .outside) (calls : InitCalls) (s : Option (List UInt8))
    (hasOps : Bool) :
    Ends (process.init calls s hasOps) (process.owned packets) (process.Goes 0) := by
  refine Ends.andThen (gdbstubInit_trades calls s hasOps) _ (zero_add _).symm fun priv => ?_
  cases priv with
  | none => exact .pure ⟨addrs, packets, hcontrolled, (zero_add _).symm, rfl⟩
  | some priv =>
      have hpriv := hcontrolled.priv.mpr hmain
      have hthread := hcontrolled.thread_eq_none (by rw [hmain]; rfl)
      obtain ⟨rfl, rfl⟩ := hcontrolled.outside hmain
      refine .pure ⟨[], [], ?_, ?_, rfl⟩
      · exact
          { used := hcontrolled.used
            priv := ⟨fun hnone => (by cases hnone), fun hmain => (by cases hmain)⟩
            thread := fun _ => rfl
            joining := fun hmain => (by cases hmain)
            outside := fun hmain => (by cases hmain)
            destroying := fun _ hmain => (by cases hmain)
            queue := fun _ => represents_init
            releasing := fun _ hmain => (by cases hmain)
            stray := fun _ hnode => absurd rfl hnode
            buffer := hcontrolled.buffer }
      · simp only [Process.owned, Process.inHand, hpriv, hthread, hmain, Option.elim_some,
          Option.elim_none]
        abel

theorem Process.Controlled.run_ends (hcontrolled : process.Controlled addrs packets)
    (hmain : process.main = .ready) (created : Bool) :
    Ends (process.run created) (process.owned packets) (process.Goes 0) := by
  refine hcontrolled.withPriv_ends (by rw [hmain]; simp) Private.uses_mem fun priv hpriv => ?_
  have hinside : Process.Controlled { process with main := .popping } addrs packets :=
    hcontrolled.inside (by rw [hmain]; rfl) rfl
  cases hthread : process.thread.isSome with
  | true =>
      rw [if_pos rfl]
      refine .pure ⟨addrs, packets, hinside, ?_, rfl⟩
      simp only [Process.owned, Process.inHand, hmain]
  | false =>
      have hnone : process.thread = none := by simpa using hthread
      rw [if_neg Bool.false_ne_true]
      refine Ends.andThen (Trades.acquire created) _ (zero_add _).symm fun tid => ?_
      cases tid with
      | none => exact .pure ⟨addrs, packets, hcontrolled, (zero_add _).symm, rfl⟩
      | some tid =>
          refine .pure ⟨addrs, packets, ?_, ?_, rfl⟩
          · exact
              { hinside with
                thread := fun _ => rfl
                joining := fun hmain => (by cases hmain)
                buffer := fun thread hmem _ => by
                  cases hmem
                  exact Nat.two_pow_pos 10 }
          · simp only [Process.owned, Process.inHand, hmain, hnone, Option.elim_some,
              Option.elim_none, ReaderThread.handles, handles_some]
            abel

theorem Process.Controlled.take_ends (hcontrolled : process.Controlled addrs packets)
    (hmain : process.main = .popping) {taken : Except Fault (Option ℕ × LinkedPktqueue ℕ)}
    (htaken : linkedTake process.queue = some taken) :
    Ends (process.take taken) (process.owned packets) (process.Goes 0) := by
  refine hcontrolled.withPriv_ends (by rw [hmain]; simp) Private.queueUses_mem fun priv hpriv => ?_
  have hqueue := hcontrolled.queue (by rw [hmain]; rfl)
  rcases hqueue.take with ⟨hwaits, -⟩ | ⟨hnull, -, -, -⟩ |
    ⟨addr, others, node, queue, rest, rfl, hnode, htake, hnodes, hpackets, -, hnext⟩
  · rw [hwaits] at htaken
    cases htaken
  · rw [hnull] at htaken
    cases htaken
    refine .pure ⟨addrs, packets, hcontrolled.inside (by rw [hmain]; rfl) rfl, ?_, rfl⟩
    simp only [Process.owned, Process.inHand, hmain, Option.elim_none]
  · rw [htake] at htaken
    cases htaken
    have hnot : addr ∉ others := (List.nodup_cons.mp hqueue.chain.nodup).1
    have hheld : queue.nodes addr = some node := by rw [hnodes, hnode]
    have hpackets : packets = node.value :: rest := hpackets
    refine .pure ⟨others, rest, ?_, ?_, rfl⟩
    · exact
        { used := hcontrolled.used
          priv := ⟨fun hnone => (by rw [hpriv] at hnone; cases hnone),
            fun hmain => (by cases hmain)⟩
          thread := fun _ => rfl
          joining := fun hmain => (by cases hmain)
          outside := fun hmain => (by cases hmain)
          destroying := fun _ hmain => (by cases hmain)
          queue := fun _ => represents_flags hnext
          releasing := fun other hother => by
            cases hother
            exact ⟨hnot, node, hheld⟩
          stray := fun other hother => by
            rw [hnodes] at hother
            rcases hcontrolled.stray other hother with hmem | hreleasing
            · rcases List.mem_cons.mp hmem with rfl | hmem
              · exact .inr rfl
              · exact .inl hmem
            · rw [hmain] at hreleasing
              cases hreleasing
          buffer := hcontrolled.buffer }
    · simp only [Process.owned, Process.inHand, hmain, Option.elim_some, hheld, Option.map_some,
        handles_some, hpackets, ← Multiset.cons_coe, ← Multiset.singleton_add]
      abel

theorem Process.Controlled.release_ends (hcontrolled : process.Controlled addrs packets)
    {node : ℕ} (hmain : process.main = .releasing node) :
    Ends (process.release node) (process.owned packets) (process.Goes 0) := by
  obtain ⟨hnot, value, hvalue⟩ := hcontrolled.releasing node hmain
  rw [Process.release, linkedRelease_eq hvalue, checked_ok, pure_bind]
  refine .pure ⟨addrs, packets, ?_, ?_, rfl⟩
  · exact
      { used := hcontrolled.used
        priv := ⟨fun hnone => (by rw [hcontrolled.priv.mp hnone] at hmain; cases hmain),
          fun hmain => (by cases hmain)⟩
        thread := fun _ => rfl
        joining := fun hmain => (by cases hmain)
        outside := fun hmain => (by cases hmain)
        destroying := fun _ hmain => (by cases hmain)
        queue := fun _ => (hcontrolled.queue (by rw [hmain]; rfl)).release hnot
        releasing := fun _ hmain => (by cases hmain)
        stray := fun other hother => by
          have hne : other ≠ node := by
            rintro rfl
            exact hother (Function.update_self ..)
          replace hother : Function.update process.queue.nodes node none other ≠ none := hother
          rw [Function.update_of_ne hne] at hother
          refine (hcontrolled.stray other hother).imp_right fun hreleasing => ?_
          rw [hmain] at hreleasing
          cases hreleasing
          exact absurd rfl hne
        buffer := hcontrolled.buffer }
  · simp only [Process.owned, Process.inHand, hmain, hvalue, Option.map_some, handles_some]

theorem Process.Controlled.isShutdown_ends (hcontrolled : process.Controlled addrs packets)
    (hmain : process.main = .noPacket) :
    Ends process.isShutdown (process.owned packets) (process.Goes 0) := by
  refine hcontrolled.withPriv_ends (by rw [hmain]; simp) Private.queueUses_mem fun priv hpriv => ?_
  cases process.queue.shutdown with
  | true =>
      refine .pure ⟨addrs, packets, hcontrolled.inside (by rw [hmain]; rfl) rfl, ?_, rfl⟩
      simp only [Process.owned, Process.inHand, hmain, if_true]
  | false =>
      refine .pure ⟨addrs, packets, hcontrolled.inside (by rw [hmain]; rfl) rfl, ?_, rfl⟩
      simp only [Process.owned, Process.inHand, hmain, Bool.false_eq_true, if_false]

theorem Process.Controlled.checkInterrupt_ends (hcontrolled : process.Controlled addrs packets)
    (hmain : process.main = .clearing) :
    Ends process.checkInterrupt (process.owned packets) (process.Goes 0) := by
  refine hcontrolled.withPriv_ends (by rw [hmain]; simp) Private.queueUses_mem fun priv hpriv => ?_
  have hinside : Process.Controlled { process with main := .popping } addrs packets :=
    hcontrolled.inside (by rw [hmain]; rfl) rfl
  refine .pure ⟨addrs, packets, ?_, ?_, rfl⟩
  · have hqueue := hinside.queue rfl
    exact { hinside with queue := fun _ => ⟨hqueue.chain, hqueue.tail, rfl, rfl⟩ }
  · simp only [Process.owned, Process.inHand, hmain]

theorem Process.Controlled.accept_ends (hcontrolled : process.Controlled addrs packets) {pkt : ℕ}
    (hmain : process.main = .holding pkt) :
    Ends (process.accept pkt) (process.owned packets) (process.Goes 0) := by
  refine hcontrolled.withPriv_ends (by rw [hmain]; simp) Private.sendUses_mem fun priv hpriv => ?_
  have hheld : pkt ∈ process.owned packets := by simp [Process.owned, Process.inHand, hmain]
  refine Ends.andThen (Trades.require hheld) 0 (add_zero _).symm fun _ => ?_
  refine .pure ⟨addrs, packets, hcontrolled.inside (by rw [hmain]; rfl) rfl, ?_, rfl⟩
  simp only [Process.owned, Process.inHand, hmain, add_zero]

/-- A packet in the hand of the main thread. -/
theorem Process.Controlled.finish_ends (hcontrolled : process.Controlled addrs packets) {pkt : ℕ}
    (hmain : process.main.inside = true) (hheld : process.inHand = {pkt}) (goesOn : Bool) :
    Ends (process.finish pkt goesOn) (process.owned packets) (process.Goes 0) := by
  refine hcontrolled.withPriv_ends (MainPoint.ne_of_inside hmain).1 Private.sendUses_mem
    fun priv hpriv => ?_
  refine Ends.andThen (Trades.release pkt)
    (process.priv.elim 0 Private.handles + process.thread.elim 0 ReaderThread.handles + packets +
      process.lost) ?_ fun _ => ?_
  · rw [Process.owned, hheld]
    abel
  · refine .pure ⟨addrs, packets, hcontrolled.inside hmain (MainPoint.inside_after goesOn), ?_, rfl⟩
    cases goesOn with
    | false =>
        simp only [Process.owned, Process.inHand, MainPoint.after, Bool.false_eq_true, if_false,
          add_zero, zero_add]
    | true =>
        simp only [Process.owned, Process.inHand, MainPoint.after, if_true, add_zero, zero_add]

theorem Process.Controlled.regbufGet_ends (hcontrolled : process.Controlled addrs packets)
    (hmain : process.main ≠ .outside) (available : Bool) :
    Ends (process.regbufGet available) (process.owned packets) (process.Goes 0) := by
  refine hcontrolled.withPriv_ends hmain Private.uses_mem fun priv hpriv => ?_
  refine Ends.andThen (regbufGrow_trades available priv.regbuf)
    ({priv.block} + priv.queue.handles + priv.conn.handles +
      process.thread.elim 0 ReaderThread.handles + packets + process.inHand + process.lost)
    ?_ fun regbuf => ?_
  · simp only [Process.owned, hpriv, Option.elim_some, Private.handles]
    abel
  · refine .pure ⟨addrs, packets, ?_, ?_, rfl⟩
    · exact { hcontrolled with
        priv := ⟨fun hnone => (by cases hnone), fun houtside => absurd houtside hmain⟩ }
    · simp only [Process.owned, Process.inHand, Option.elim_some, Private.handles]
      abel

/-! ### Handlers -/

theorem Process.Controlled.crashed_goes (hcontrolled : process.Controlled addrs packets) :
    process.Goes 0 { process with crashed := true } (process.owned packets) :=
  ⟨addrs, packets, { hcontrolled with }, rfl, rfl⟩

section

variable {pkt : ℕ} (hcontrolled : process.Controlled addrs packets)
  (hmain : process.main = .serving pkt)

include hmain

/-- The packet that is served is held. -/
theorem Process.serving_mem : pkt ∈ process.owned packets := by
  simp [Process.owned, Process.inHand, hmain]

include hcontrolled

/-- A handler has come back, and holds nothing more. -/
theorem Process.Controlled.handled_goes {saved : Option ℕ} {stale : Bool} :
    process.Goes 0 { process with saved := saved, stale := stale, main := .handled pkt }
      (process.owned packets) := by
  have hinside : Process.Controlled { process with main := .handled pkt } addrs packets :=
    hcontrolled.inside (by rw [hmain]; rfl) rfl
  refine ⟨addrs, packets, { hinside with }, ?_, rfl⟩
  simp only [Process.owned, Process.inHand, hmain]

theorem Process.Controlled.memory_ends (available accessed : Bool) :
    Ends (process.memory pkt available accessed) (process.owned packets) (process.Goes 0) := by
  have hhandled : process.Goes 0 { process with main := .handled pkt } (process.owned packets) :=
    hcontrolled.handled_goes hmain
  refine Ends.andThen (Trades.require (process.serving_mem hmain)) 0 (add_zero _).symm fun _ => ?_
  rw [add_zero]
  cases available with
  | true =>
      refine Ends.acquired fun mval => ?_
      refine Ends.access (fun handle hhandle => ?_) ?_ (fun _ hnull => by cases hnull)
      · cases hhandle
        simp
      · refine Ends.andThen (Trades.release mval) _ rfl fun _ => ?_
        rw [zero_add]
        exact .pure hhandled
  | false =>
      refine Ends.refused ?_
      refine Ends.access (fun handle hhandle => (by cases hhandle)) ?_ fun _ _ => ?_
      · exact .pure hhandled
      · exact .pure hcontrolled.crashed_goes

theorem Process.Controlled.registers_ends (first second : Bool) :
    Ends (process.registers pkt first second) (process.owned packets) (process.Goes 0) := by
  have hhandled : process.Goes 0 { process with main := .handled pkt } (process.owned packets) :=
    hcontrolled.handled_goes hmain
  refine Ends.andThen (Trades.require (process.serving_mem hmain)) 0 (add_zero _).symm fun _ => ?_
  rw [add_zero]
  refine Ends.andThen (Trades.acquire first) _ (zero_add _).symm fun newValues => ?_
  refine Ends.andThen (Trades.acquire second) _ (zero_add _).symm fun backupValues => ?_
  refine Ends.uses (fun handle hhandle => ?_) ?_
  · rw [Multiset.mem_add, Multiset.mem_add]
    split at hhandle
    · rcases List.mem_append.mp hhandle with hnew | hbackup
      · obtain rfl := Option.mem_toList.mp hnew
        exact .inr (.inl (Multiset.mem_singleton_self handle))
      · obtain rfl := Option.mem_toList.mp hbackup
        exact .inl (Multiset.mem_singleton_self handle)
    · cases hhandle
  refine Ends.andThen (Trades.releaseSome newValues)
    (handles backupValues + process.owned packets) ?_ fun _ => ?_
  · abel
  refine Ends.andThen (Trades.releaseSome backupValues) _ (zero_add _) fun _ => ?_
  rw [zero_add]
  exact .pure hhandled

theorem Process.Controlled.register_ends (accessed : Bool) :
    Ends (process.register pkt accessed) (process.owned packets) (process.Goes 0) := by
  refine hcontrolled.withPriv_ends (by rw [hmain]; simp) Private.uses_mem fun priv hpriv => ?_
  refine Ends.andThen (Trades.require (process.serving_mem hmain)) 0 (add_zero _).symm fun _ => ?_
  rw [add_zero]
  refine Ends.access (fun handle hhandle => ?_) ?_ fun _ _ => ?_
  · have hregbuf : priv.regbuf = some handle := hhandle
    simp [Process.owned, hpriv, Private.handles, hregbuf]
  · exact .pure ⟨addrs, packets, hcontrolled, rfl, rfl⟩
  · exact .pure hcontrolled.crashed_goes

theorem Process.Controlled.transfer_ends (hasArgs : Bool) :
    Ends (process.transfer pkt hasArgs) (process.owned packets) (process.Goes 0) := by
  refine Ends.andThen (Trades.require (process.serving_mem hmain)) 0 (add_zero _).symm fun _ => ?_
  rw [add_zero]
  cases hasArgs with
  | true => exact .pure (hcontrolled.handled_goes hmain)
  | false =>
      rw [if_neg Bool.false_ne_true]
      split
      · exact Ends.holds fun held => .pure (hcontrolled.handled_goes hmain)
      · exact .pure hcontrolled.crashed_goes

theorem Process.Controlled.handler_ends (blocks : HandlerBlocks) :
    Ends (process.handler pkt blocks) (process.owned packets) (process.Goes 0) := by
  cases blocks with
  | memory available accessed => exact hcontrolled.memory_ends hmain available accessed
  | registers first second => exact hcontrolled.registers_ends hmain first second
  | register accessed => exact hcontrolled.register_ends hmain accessed
  | transfer hasArgs => exact hcontrolled.transfer_ends hmain hasArgs

end

/-! ### `gdbstub_close` -/

/-- The list that is about to be destroyed. -/
theorem Process.Controlled.destroying_of (hcontrolled : process.Controlled addrs packets)
    (hmain : process.main.threaded = true) (hreleasing : ∀ node, process.main ≠ .releasing node) :
    Process.Controlled { process with
      thread := none
      main := .destroying process.queue.head } addrs packets where
  used := hcontrolled.used
  priv := by
    refine ⟨fun hnone => ?_, fun hmain => (by cases hmain)⟩
    have houtside : process.main = .outside := hcontrolled.priv.mp hnone
    rw [houtside] at hmain
    cases hmain
  thread := fun hsome => by cases hsome
  joining := fun hmain => by cases hmain
  outside := fun hmain => by cases hmain
  destroying := fun node hnode => by
    cases hnode
    exact (hcontrolled.queue hmain).chain
  queue := fun hthreaded => by cases hthreaded
  releasing := fun _ hmain => by cases hmain
  stray := fun addr hnode => .inl ((hcontrolled.stray addr hnode).resolve_right (hreleasing addr))
  buffer := fun thread hmem => by cases hmem

theorem Process.Controlled.close_ends (hcontrolled : process.Controlled addrs packets)
    (hmain : process.main = .ready) :
    Ends process.close (process.owned packets) (process.Goes 0) := by
  refine hcontrolled.withPriv_ends (by rw [hmain]; simp) Private.queueUses_mem fun priv hpriv => ?_
  cases hthread : process.thread.isSome with
  | true =>
      rw [if_pos rfl]
      have hqueue := hcontrolled.queue (by rw [hmain]; rfl)
      refine .pure ⟨addrs, packets, ?_, ?_, rfl⟩
      · exact
          { hcontrolled with
            priv := ⟨fun hnone => (by rw [hpriv] at hnone; cases hnone),
              fun hmain => (by cases hmain)⟩
            thread := fun _ => rfl
            joining := fun _ => ⟨hthread, rfl⟩
            outside := fun hmain => (by cases hmain)
            destroying := fun _ hmain => (by cases hmain)
            queue := fun _ => ⟨hqueue.chain, hqueue.tail, rfl, rfl⟩
            releasing := fun _ hmain => (by cases hmain)
            stray := fun addr hnode => .inl <| (hcontrolled.stray addr hnode).resolve_right
              fun hreleasing => by
                rw [hmain] at hreleasing
                cases hreleasing }
      · simp only [Process.owned, Process.inHand, hmain]
  | false =>
      have hnone : process.thread = none := by simpa using hthread
      rw [if_neg Bool.false_ne_true]
      have hdestroying := hcontrolled.destroying_of (by rw [hmain]; rfl) (by rw [hmain]; simp)
      rw [← hnone] at hdestroying
      refine .pure ⟨addrs, packets, hdestroying, ?_, rfl⟩
      simp only [Process.owned, Process.inHand, hmain]

theorem Process.Controlled.join_ends (hcontrolled : process.Controlled addrs packets)
    (hmain : process.main = .joining) {thread : ReaderThread}
    (hthread : process.thread = some thread) (hfinished : thread.point.isFinished = true) :
    Ends (process.join thread) (process.owned packets) (process.Goes 0) := by
  refine hcontrolled.withPriv_ends (by rw [hmain]; simp) Private.uses_mem fun priv hpriv => ?_
  have hhandles : thread.handles = {thread.tid} := by
    cases hpoint : thread.point with
    | finished => simp only [ReaderThread.handles, hpoint, add_zero]
    | _ =>
        rw [hpoint] at hfinished
        cases hfinished
  refine Ends.andThen (Trades.release thread.tid)
    (process.priv.elim 0 Private.handles + packets + process.lost) ?_ fun _ => ?_
  · simp only [Process.owned, Process.inHand, hmain, hthread, Option.elim_some, hhandles]
    abel
  · refine .pure ⟨addrs, packets, ?_, ?_, rfl⟩
    · exact hcontrolled.destroying_of (by rw [hmain]; rfl) (by rw [hmain]; simp)
    · simp only [Process.owned, Process.inHand, Option.elim_none, add_zero, zero_add]

theorem Process.Controlled.destroyNode_ends (hcontrolled : process.Controlled addrs packets)
    {addr : ℕ} (hmain : process.main = .destroying (some addr)) :
    Ends (process.destroyNode addr) (process.owned packets) (process.Goes 0) := by
  refine hcontrolled.withPriv_ends (by rw [hmain]; simp) Private.queueUses_mem fun priv hpriv => ?_
  have hchain := hcontrolled.destroying _ hmain
  have hnodup := hchain.nodup
  cases hchain with
  | @cons _ node others values hnode hrest =>
      obtain ⟨hnot, -⟩ := List.nodup_cons.mp hnodup
      have hread : nodeAt process.queue.nodes addr = .ok node := by rw [nodeAt, hnode]; rfl
      rw [hread, checked_ok, pure_bind]
      refine Ends.andThen (Trades.release node.value)
        (process.priv.elim 0 Private.handles + process.thread.elim 0 ReaderThread.handles +
          values + process.lost) ?_ fun _ => ?_
      · simp only [Process.owned, Process.inHand, hmain, ← Multiset.cons_coe,
          ← Multiset.singleton_add]
        abel
      -- the rest of the list does not go through the node that is released
      refine .pure ⟨others, values, ?_, ?_, rfl⟩
      · exact
          { used := hcontrolled.used
            priv := ⟨fun hnone => (by rw [hpriv] at hnone; cases hnone),
              fun hmain => (by cases hmain)⟩
            thread := fun hsome => (by
              rw [show process.thread = none from
                hcontrolled.thread_eq_none (by rw [hmain]; rfl)] at hsome
              cases hsome)
            joining := fun hmain => (by cases hmain)
            outside := fun hmain => (by cases hmain)
            destroying := fun next hnext => by
              cases hnext
              exact hrest.update_of_notMem hnot none
            queue := fun hthreaded => (by cases hthreaded)
            releasing := fun _ hmain => (by cases hmain)
            stray := fun other hother => by
              have hne : other ≠ addr := by
                rintro rfl
                exact hother (Function.update_self ..)
              replace hother : Function.update process.queue.nodes addr none other ≠ none := hother
              rw [Function.update_of_ne hne] at hother
              rcases hcontrolled.stray other hother with hmem | hreleasing
              · exact .inl ((List.mem_cons.mp hmem).resolve_left hne)
              · rw [hmain] at hreleasing
                cases hreleasing
            buffer := hcontrolled.buffer }
      · simp only [Process.owned, Process.inHand, add_zero, zero_add]

theorem Process.Controlled.destroy_ends (hcontrolled : process.Controlled addrs packets)
    (hmain : process.main = .destroying none) :
    Ends process.destroy (process.owned packets) (process.Goes 0) := by
  refine hcontrolled.withPriv_ends (by rw [hmain]; simp) Private.uses_mem fun priv hpriv => ?_
  have hthread := hcontrolled.thread_eq_none (by rw [hmain]; rfl)
  have hchain := hcontrolled.destroying _ hmain
  cases hchain
  refine Ends.andThen priv.release_trades process.lost ?_ fun _ => ?_
  · simp only [Process.owned, Process.inHand, hmain, hpriv, hthread, Option.elim_some,
      Option.elim_none, Multiset.coe_nil, add_zero]
  refine .pure ⟨[], [], ?_, ?_, rfl⟩
  · exact
      { used := hcontrolled.used
        priv := ⟨fun _ => rfl, fun _ => rfl⟩
        thread := fun hsome => (by rw [hthread] at hsome; cases hsome)
        joining := fun hmain => (by cases hmain)
        outside := fun _ => ⟨rfl, rfl⟩
        destroying := fun _ hmain => (by cases hmain)
        queue := fun hthreaded => (by cases hthreaded)
        releasing := fun _ hmain => (by cases hmain)
        stray := fun addr hnode => .inl <| (hcontrolled.stray addr hnode).resolve_right
          fun hreleasing => by
            rw [hmain] at hreleasing
            cases hreleasing
        buffer := hcontrolled.buffer }
  · simp only [Process.owned, Process.inHand, hthread, Option.elim_none, Multiset.coe_nil,
      add_zero]

/-- **A step of the main thread.** -/
theorem mainStep_ends (hcontrolled : process.Controlled addrs packets) {label : MainLabel}
    {effect : Effect Process} (hstep : mainStep process label = some effect) :
    Ends effect (process.owned packets) (process.Goes 0) := by
  cases mainMove_of_step hstep with
  | init calls s hasOps hmain => exact hcontrolled.init_ends hmain calls s hasOps
  | run created hmain => exact hcontrolled.run_ends hmain created
  | take taken hmain htaken => exact hcontrolled.take_ends hmain htaken
  | release node hmain => exact hcontrolled.release_ends hmain
  | isShutdown hmain => exact hcontrolled.isShutdown_ends hmain
  | checkInterrupt hmain => exact hcontrolled.checkInterrupt_ends hmain
  | discard pkt goesOn hmain =>
      exact hcontrolled.finish_ends (by rw [hmain]; rfl) (by rw [Process.inHand, hmain]) goesOn
  | accept pkt hmain => exact hcontrolled.accept_ends hmain
  | regbufGet pkt available hmain =>
      exact hcontrolled.regbufGet_ends (by rw [hmain]; simp) available
  | handler pkt blocks hmain => exact hcontrolled.handler_ends hmain blocks
  | served pkt goesOn hmain =>
      rcases hmain with hmain | hmain
      · exact hcontrolled.finish_ends (by rw [hmain]; rfl) (by rw [Process.inHand, hmain]) goesOn
      · exact hcontrolled.finish_ends (by rw [hmain]; rfl) (by rw [Process.inHand, hmain]) goesOn
  | close hmain => exact hcontrolled.close_ends hmain
  | join thread hmain hthread hfinished => exact hcontrolled.join_ends hmain hthread hfinished
  | destroyNode addr hmain => exact hcontrolled.destroyNode_ends hmain
  | destroy hmain => exact hcontrolled.destroy_ends hmain

/-! ## Steps of the reader thread -/

/-- The blocks that a step leaves behind. -/
def ThreadLabel.losses : ThreadLabel → ℕ
  | .enlarge available => if available then 0 else 1
  | _ => 0

/-- Does the reader thread hold its buffer, and no packet? -/
def ReaderPoint.buffering : ReaderPoint → Bool
  | .starting => false
  | .pushing _ => false
  | .signalling => false
  | .finished => false
  | _ => true

theorem ReaderThread.handles_buffering (thread : ReaderThread)
    (hpoint : thread.point.buffering = true) :
    thread.handles = {thread.tid} + Ledger.handles thread.data := by
  obtain ⟨tid, point, data, cap, size⟩ := thread
  cases point with
  | starting => cases hpoint
  | pushing pkt => cases hpoint
  | signalling => cases hpoint
  | finished => cases hpoint
  | _ => rfl

/-- What is held beside what the reader thread holds. -/
def Process.beside (process : Process) (packets : List ℕ) : Multiset ℕ :=
  process.priv.elim 0 Private.handles + packets + process.inHand + process.lost

theorem Process.owned_eq {thread : ReaderThread} (hthread : process.thread = some thread) :
    process.owned packets = thread.handles + process.beside packets := by
  rw [Process.owned, Process.beside, hthread, Option.elim_some]
  abel

/-- The buffer is held while it is used. -/
theorem data_mem {thread : ReaderThread} (hthread : process.thread = some thread)
    (hpoint : thread.point.buffering = true) :
    ∀ handle ∈ thread.data.toList, handle ∈ process.owned packets := by
  intro handle hmem
  have hdata : thread.data = some handle := Option.mem_toList.mp hmem
  rw [Process.owned_eq hthread, thread.handles_buffering hpoint, hdata]
  simp

section

variable {thread : ReaderThread} (hcontrolled : process.Controlled addrs packets)
  (hthread : process.thread = some thread)

include hcontrolled hthread

theorem Process.Controlled.threaded : process.main.threaded = true :=
  hcontrolled.thread (by rw [hthread]; rfl)

theorem Process.Controlled.ne_outside : process.main ≠ .outside := by
  intro hmain
  have hthreaded := hcontrolled.threaded hthread
  rw [hmain] at hthreaded
  cases hthreaded

theorem Process.Controlled.threadBuffer (hdata : thread.data = none) :
    thread.size < 2 ^ thread.cap :=
  hcontrolled.buffer thread hthread hdata

/-- The reader thread has come elsewhere. -/
theorem Process.Controlled.moved {next : ReaderThread}
    (hbuffer : next.data = none → next.size < 2 ^ next.cap) :
    Process.Controlled { process with thread := some next } addrs packets :=
  { hcontrolled with
    thread := fun _ => hcontrolled.threaded hthread
    joining := fun hmain => ⟨rfl, (hcontrolled.joining hmain).2⟩
    buffer := fun other hmem => by
      cases hmem
      exact hbuffer }

/-- The reader thread goes on with what it holds. -/
theorem Process.Controlled.moved_goes {next : ReaderThread} {owned : Multiset ℕ}
    (hbuffer : next.data = none → next.size < 2 ^ next.cap)
    (howned : owned = next.handles + process.beside packets) :
    process.Goes 0 { process with thread := some next } owned :=
  ⟨addrs, packets, hcontrolled.moved hthread hbuffer, (Process.owned_eq rfl).trans howned.symm, rfl⟩

/-- The reader thread goes on with its buffer. -/
theorem Process.Controlled.goto_ends (hfrom : thread.point.buffering = true)
    {point : ReaderPoint} (hto : point.buffering = true) :
    Ends (pure (process.goto thread point)) (process.owned packets) (process.Goes 0) := by
  have hbuffer := hcontrolled.threadBuffer hthread
  refine .pure (hcontrolled.moved_goes hthread hbuffer ?_)
  rw [Process.owned_eq hthread, thread.handles_buffering hfrom]
  rw [ReaderThread.handles_buffering _ hto]

theorem Process.Controlled.start_ends (hpoint : thread.point = .starting) (available : Bool) :
    Ends (process.start thread available) (process.owned packets) (process.Goes 0) := by
  refine hcontrolled.withPriv_ends (hcontrolled.ne_outside hthread) Private.uses_mem
    fun priv hpriv => ?_
  refine Ends.andThen (Trades.acquire available) _ (zero_add _).symm fun data => ?_
  refine .pure (hcontrolled.moved_goes hthread (fun _ => Nat.two_pow_pos 10) ?_)
  have hhandles : thread.handles = {thread.tid} := by
    rw [ReaderThread.handles, hpoint]
    exact add_zero _
  rw [Process.owned_eq hthread, hhandles]
  show handles data + ({thread.tid} + process.beside packets) =
    {thread.tid} + handles data + process.beside packets
  abel

theorem Process.Controlled.test_ends (hpoint : thread.point = .testing) :
    Ends (process.test thread) (process.owned packets) (process.Goes 0) := by
  refine hcontrolled.withPriv_ends (hcontrolled.ne_outside hthread) Private.uses_mem
    fun priv hpriv => ?_
  refine hcontrolled.goto_ends hthread (by rw [hpoint]; rfl) ?_
  cases process.threadStop <;> rfl

theorem Process.Controlled.poll_ends (hpoint : thread.point = .polling) (outcome : PollOutcome) :
    Ends (process.poll thread outcome) (process.owned packets) (process.Goes 0) := by
  refine hcontrolled.withPriv_ends (hcontrolled.ne_outside hthread) Private.readUses_mem
    fun priv hpriv => ?_
  refine hcontrolled.goto_ends hthread (by rw [hpoint]; rfl) ?_
  cases outcome <;> rfl

theorem Process.Controlled.enlarge_ends (hpoint : thread.point = .filling)
    (hfull : 2 ^ thread.cap = thread.size) (available : Bool) :
    Ends (process.enlarge thread available) (process.owned packets)
      (process.Goes (if available then 0 else 1)) := by
  have hbuffering : thread.point.buffering = true := by rw [hpoint]; rfl
  have hroom : thread.size < 2 ^ (thread.cap + 1) := by
    rw [← hfull]
    exact Nat.pow_lt_pow_succ (by decide)
  cases available with
  | true =>
      refine Ends.acquired fun data => ?_
      refine Ends.andThen (Trades.releaseSome thread.data)
        ({data} + ({thread.tid} + process.beside packets)) ?_ fun _ => ?_
      · rw [Process.owned_eq hthread, thread.handles_buffering hbuffering]
        abel
      · refine .pure (hcontrolled.moved_goes hthread (fun _ => hroom) ?_)
        rw [ReaderThread.handles_buffering _ (by exact hbuffering), handles_some]
        abel
  | false =>
      -- the block is nobody's any more
      refine Ends.refused ?_
      obtain ⟨data, hdata⟩ : ∃ data, thread.data = some data := by
        refine Option.ne_none_iff_exists'.mp fun hnone => ?_
        exact absurd (hcontrolled.threadBuffer hthread hnone) (Nat.not_lt.mpr hfull.le)
      refine .pure ⟨addrs, packets, { hcontrolled.moved hthread (fun _ => hroom) with }, ?_, ?_⟩
      · rw [Process.owned_eq rfl, Process.owned_eq hthread, thread.handles_buffering hbuffering,
          ReaderThread.handles_buffering _ (by exact hbuffering), handles_none, Process.beside,
          Process.beside]
        show {thread.tid} + 0 + (process.priv.elim 0 Private.handles + packets + process.inHand +
          (process.lost + handles thread.data)) = _
        abel
      · rw [hdata, handles_some, Multiset.card_add, Multiset.card_singleton]
        rfl

theorem Process.Controlled.read_ends (hpoint : thread.point = .filling) {outcome : ReadOutcome}
    (hread : thread.canRead outcome = true) :
    Ends (process.read thread outcome) (process.owned packets) (process.Goes 0) := by
  have hbuffering : thread.point.buffering = true := by rw [hpoint]; rfl
  refine hcontrolled.withPriv_ends (hcontrolled.ne_outside hthread) Private.readUses_mem
    fun priv hpriv => ?_
  refine Ends.uses (data_mem hthread hbuffering) ?_
  cases outcome with
  | bytes nread =>
      have hdata : thread.data.isSome = true := (Bool.and_eq_true_iff.mp hread).2
      refine .pure (hcontrolled.moved_goes hthread (fun hnone => ?_) ?_)
      · rw [show thread.data = none from hnone] at hdata
        cases hdata
      · rw [Process.owned_eq hthread, thread.handles_buffering hbuffering]
        rfl
  | again => exact hcontrolled.goto_ends hthread hbuffering rfl
  | ended => exact hcontrolled.goto_ends hthread hbuffering rfl

/-- Flags of the queue are set. -/
theorem Process.Controlled.flagged {queue : LinkedPktqueue ℕ}
    (hnodes : queue.nodes = process.queue.nodes) (hhead : queue.head = process.queue.head)
    (htail : queue.tail = process.queue.tail) :
    Process.Controlled { process with queue := queue } addrs packets := by
  have hqueue := hcontrolled.queue (hcontrolled.threaded hthread)
  exact
    { hcontrolled with
      destroying := fun node hmain => by
        have hthreaded := hcontrolled.threaded hthread
        rw [show process.main = .destroying node from hmain] at hthreaded
        cases hthreaded
      queue := fun _ => by
        refine ⟨?_, htail.trans hqueue.tail, rfl, rfl⟩
        rw [hhead, hnodes]
        exact hqueue.chain
      releasing := fun node hmain => by
        rw [hnodes]
        exact hcontrolled.releasing node hmain
      stray := fun addr hnode => by
        rw [hnodes] at hnode
        exact hcontrolled.stray addr hnode }

/-- The reader thread goes on with its buffer, at a place of its own choice. -/
theorem Process.Controlled.buffering_goes {next : ReaderThread} {owned : Multiset ℕ}
    (hto : next.point.buffering = true) (hbuffer : next.data = none → next.size < 2 ^ next.cap)
    (howned : owned = {next.tid} + handles next.data + process.beside packets) :
    process.Goes 0 { process with thread := some next } owned := by
  refine hcontrolled.moved_goes hthread hbuffer ?_
  rw [ReaderThread.handles_buffering next hto]
  exact howned

theorem Process.Controlled.scan_ends {left : ℕ} (hpoint : thread.point = .scanning left)
    (hit : Bool) :
    Ends (process.scan thread left hit) (process.owned packets) (process.Goes 0) := by
  have hbuffering : thread.point.buffering = true := by rw [hpoint]; rfl
  refine hcontrolled.withPriv_ends (hcontrolled.ne_outside hthread) Private.queueUses_mem
    fun priv hpriv => ?_
  refine Ends.uses (data_mem hthread hbuffering) ?_
  have hflagged : Process.Controlled { process with
      queue := if hit then linkedSignalInterrupt process.queue else process.queue }
      addrs packets := by
    cases hit with
    | true => exact hcontrolled.flagged hthread rfl rfl rfl
    | false => exact hcontrolled
  have hbeside : Process.beside { process with
      queue := if hit then linkedSignalInterrupt process.queue else process.queue } packets =
      process.beside packets := by
    cases hit <;> rfl
  have hbuffer := hcontrolled.threadBuffer hthread
  refine .pure (hflagged.buffering_goes hthread ?_ hbuffer ?_)
  · dsimp only
    split <;> rfl
  · rw [Process.owned_eq hthread, thread.handles_buffering hbuffering, hbeside]

theorem Process.Controlled.incomplete_ends (hpoint : thread.point = .assembling) {left : ℕ}
    (hleft : left ≤ thread.size) :
    Ends (process.incomplete thread left) (process.owned packets) (process.Goes 0) := by
  have hbuffering : thread.point.buffering = true := by rw [hpoint]; rfl
  have hbuffer := hcontrolled.threadBuffer hthread
  refine Ends.uses (data_mem hthread hbuffering) ?_
  refine .pure (hcontrolled.buffering_goes hthread rfl ?_ ?_)
  · exact fun hdata => hleft.trans_lt (hbuffer hdata)
  · rw [Process.owned_eq hthread, thread.handles_buffering hbuffering]

theorem Process.Controlled.pop_ends (hpoint : thread.point = .assembling) {left : ℕ}
    (hleft : left < thread.size) (available : Bool) :
    Ends (process.pop thread left available) (process.owned packets) (process.Goes 0) := by
  have hbuffering : thread.point.buffering = true := by rw [hpoint]; rfl
  have hbuffer := hcontrolled.threadBuffer hthread
  refine Ends.uses (data_mem hthread hbuffering) ?_
  refine Ends.andThen (Trades.acquire available) _ (zero_add _).symm fun pkt => ?_
  cases pkt with
  | none => exact .pure ⟨addrs, packets, { hcontrolled with }, (zero_add _).symm, rfl⟩
  | some pkt =>
      refine .pure (hcontrolled.moved_goes hthread ?_ ?_)
      · exact fun hdata => hleft.trans (hbuffer hdata)
      · rw [Process.owned_eq hthread, thread.handles_buffering hbuffering]
        show {pkt} + ({thread.tid} + handles thread.data + process.beside packets) =
          {thread.tid} + (handles thread.data + {pkt}) + process.beside packets
        abel

theorem Process.Controlled.push_ends {pkt : ℕ} (hpoint : thread.point = .pushing pkt)
    {node : Option ℕ} (hfresh : ∀ addr ∈ node, (process.queue.nodes addr).isNone) :
    Ends (process.push thread pkt node) (process.owned packets) (process.Goes 0) := by
  have hhandles : thread.handles = {thread.tid} + (handles thread.data + {pkt}) := by
    rw [ReaderThread.handles, hpoint]
  have hbuffer := hcontrolled.threadBuffer hthread
  refine hcontrolled.withPriv_ends (hcontrolled.ne_outside hthread) Private.queueUses_mem
    fun priv hpriv => ?_
  cases node with
  | none =>
      -- the packet is given back
      rw [linkedPush]
      show Ends (do
        Ledger.release pkt
        return process.goto thread .assembling) _ _
      refine Ends.andThen (Trades.release pkt)
        ({thread.tid} + handles thread.data + process.beside packets) ?_ fun _ => ?_
      · rw [Process.owned_eq hthread, hhandles]
        abel
      · exact .pure (hcontrolled.buffering_goes hthread rfl hbuffer (zero_add _))
  | some addr =>
      have hfree : process.queue.nodes addr = none :=
        Option.isNone_iff_eq_none.mp (hfresh addr rfl)
      have hqueue := hcontrolled.queue (hcontrolled.threaded hthread)
      obtain ⟨queue, hpush, hnext, hother⟩ := hqueue.push hfree pkt
      rw [hpush, checked_ok, pure_bind]
      have hreleasing : ∀ node, process.main = .releasing node → node ∉ addrs ∧ node ≠ addr ∧
          ∃ value, process.queue.nodes node = some value := by
        intro node hmain
        obtain ⟨hnot, value, hvalue⟩ := hcontrolled.releasing node hmain
        refine ⟨hnot, ?_, value, hvalue⟩
        rintro rfl
        rw [hfree] at hvalue
        cases hvalue
      have hsame : ∀ node, process.main = .releasing node →
          queue.nodes node = process.queue.nodes node := by
        intro node hmain
        obtain ⟨hnot, hne, -⟩ := hreleasing node hmain
        exact hother node hnot hne
      have hpushed : Process.Controlled { process with queue := queue } (addrs ++ [addr])
          (packets ++ [pkt]) :=
        { hcontrolled with
          outside := fun hmain => absurd hmain (hcontrolled.ne_outside hthread)
          destroying := fun node hmain => (by
            have hthreaded := hcontrolled.threaded hthread
            rw [show process.main = .destroying node from hmain] at hthreaded
            cases hthreaded)
          queue := fun _ => represents_flags hnext
          releasing := fun node hmain => (by
            obtain ⟨hnot, hne, value, hvalue⟩ := hreleasing node hmain
            refine ⟨?_, value, (hsame node hmain).trans hvalue⟩
            rw [List.mem_append, List.mem_singleton, not_or]
            exact ⟨hnot, hne⟩)
          stray := fun other hnode => (by
            rw [List.mem_append, List.mem_singleton]
            by_cases hmem : other ∈ addrs ∨ other = addr
            · exact .inl hmem
            · obtain ⟨hnot, hne⟩ := not_or.mp hmem
              rw [hother other hnot hne] at hnode
              exact (hcontrolled.stray other hnode).imp_left .inl) }
      have hbeside : Process.beside { process with queue := queue } (packets ++ [pkt]) =
          process.beside packets + {pkt} := by
        have hinHand : Process.inHand { process with queue := queue } = process.inHand := by
          rw [Process.inHand, Process.inHand]
          dsimp only
          split
          · rename_i node hmain
            rw [hsame node hmain]
          all_goals rfl
        rw [Process.beside, Process.beside, hinHand, ← Multiset.coe_add, Multiset.coe_singleton]
        dsimp only
        abel
      refine .pure (hpushed.buffering_goes hthread rfl hbuffer ?_)
      rw [Process.owned_eq hthread, hhandles, hbeside]
      abel

theorem Process.Controlled.ack_ends (hpoint : thread.point = .acking) :
    Ends (process.ack thread) (process.owned packets) (process.Goes 0) := by
  refine hcontrolled.withPriv_ends (hcontrolled.ne_outside hthread) Private.sendUses_mem
    fun priv hpriv => ?_
  exact hcontrolled.goto_ends hthread (by rw [hpoint]; rfl) rfl

theorem Process.Controlled.leave_ends (hpoint : thread.point = .leaving) :
    Ends (process.leave thread) (process.owned packets) (process.Goes 0) := by
  have hbuffer := hcontrolled.threadBuffer hthread
  refine Ends.andThen (Trades.releaseSome thread.data) ({thread.tid} + process.beside packets)
    ?_ fun _ => ?_
  · rw [Process.owned_eq hthread, thread.handles_buffering (by rw [hpoint]; rfl)]
    abel
  · refine .pure (hcontrolled.moved_goes hthread hbuffer ?_)
    show 0 + ({thread.tid} + process.beside packets) = {thread.tid} + 0 + process.beside packets
    abel

theorem Process.Controlled.signal_ends (hpoint : thread.point = .signalling) :
    Ends (process.signal thread) (process.owned packets) (process.Goes 0) := by
  have hbuffer := hcontrolled.threadBuffer hthread
  have hhandles : thread.handles = {thread.tid} + 0 := by rw [ReaderThread.handles, hpoint]
  refine hcontrolled.withPriv_ends (hcontrolled.ne_outside hthread) Private.queueUses_mem
    fun priv hpriv => ?_
  have hflagged : Process.Controlled { process with
      queue := linkedSignalShutdown process.queue } addrs packets :=
    hcontrolled.flagged hthread rfl rfl rfl
  refine .pure (hflagged.moved_goes hthread hbuffer ?_)
  rw [Process.owned_eq hthread, hhandles]
  rfl

/-- **A step of the reader thread.** -/
theorem threadStep_ends {label : ThreadLabel} {effect : Effect Process}
    (hstep : threadStep process thread label = some effect) :
    Ends effect (process.owned packets) (process.Goes label.losses) := by
  cases threadMove_of_step hstep with
  | start available hpoint => exact hcontrolled.start_ends hthread hpoint available
  | test hpoint => exact hcontrolled.test_ends hthread hpoint
  | poll outcome hpoint => exact hcontrolled.poll_ends hthread hpoint outcome
  | enlarge available hpoint hfull =>
      exact hcontrolled.enlarge_ends hthread hpoint hfull available
  | read outcome hpoint _ hread => exact hcontrolled.read_ends hthread hpoint hread
  | scan left hit hpoint => exact hcontrolled.scan_ends hthread hpoint hit
  | incomplete left hpoint hleft => exact hcontrolled.incomplete_ends hthread hpoint hleft
  | pop left available hpoint hleft =>
      exact hcontrolled.pop_ends hthread hpoint hleft available
  | push pkt node hpoint hfresh => exact hcontrolled.push_ends hthread hpoint hfresh
  | ack hpoint => exact hcontrolled.ack_ends hthread hpoint
  | leave hpoint => exact hcontrolled.leave_ends hthread hpoint
  | signal hpoint => exact hcontrolled.signal_ends hthread hpoint

end

/-! ## Every run -/

theorem sound_start : lifecycle.start.Sound := by
  refine ⟨[], [], ?_, accounts_empty⟩
  exact
    { used := rfl
      priv := ⟨fun _ => rfl, fun _ => rfl⟩
      thread := fun hsome => (by cases hsome)
      joining := fun hmain => (by cases hmain)
      outside := fun _ => ⟨rfl, rfl⟩
      destroying := fun _ hmain => (by cases hmain)
      queue := fun hthreaded => (by cases hthreaded)
      releasing := fun _ hmain => (by cases hmain)
      stray := fun _ hnode => absurd rfl hnode
      buffer := fun _ hmem => (by cases hmem) }

/-- What a step performs. -/
theorem lifecycle_step {label : Label} {next : Process}
    (hstep : lifecycle.step process label = some next) :
    ∃ effect, processStep process label = some effect ∧ process.perform effect = next := by
  obtain ⟨-, hstep⟩ := Option.ite_none_left_eq_some.mp hstep
  exact Option.map_eq_some_iff.mp hstep

/-- The blocks that a step leaves behind. -/
def Label.losses : Label → ℕ
  | .main _ => 0
  | .thread label => label.losses

/-- **A step of one of the threads.** -/
theorem processStep_ends (hcontrolled : process.Controlled addrs packets) {label : Label}
    {effect : Effect Process} (hstep : processStep process label = some effect) :
    Ends effect (process.owned packets) (process.Goes label.losses) := by
  cases label with
  | main label => exact mainStep_ends hcontrolled hstep
  | thread label =>
      obtain ⟨thread, hthread, hstep⟩ := Option.bind_eq_some_iff.mp hstep
      exact threadStep_ends hcontrolled hthread hstep

theorem Process.Sound.step {label : Label} {next : Process} (hsound : process.Sound)
    (hstep : lifecycle.step process label = some next) :
    next.Sound ∧ next.lost.card = process.lost.card + label.losses := by
  obtain ⟨addrs, packets, hcontrolled, haccounts⟩ := hsound
  obtain ⟨effect, heffect, rfl⟩ := lifecycle_step hstep
  exact perform_sound haccounts (processStep_ends hcontrolled heffect)

/-- Every run keeps the law, and loses a block with every `realloc` that fails. -/
theorem run_sound {labels : List Label} (hrun : lifecycle.run labels = some process) :
    process.Sound ∧ process.lost.card = (labels.map Label.losses).sum := by
  refine Machine.run_induction (motive := fun labels (process : Process) =>
    process.Sound ∧ process.lost.card = (labels.map Label.losses).sum) ⟨sound_start, rfl⟩ ?_ hrun
  rintro labels label state next - ⟨hsound, hlost⟩ hstep
  obtain ⟨hnext, hlosses⟩ := hsound.step hstep
  refine ⟨hnext, ?_⟩
  rw [hlosses, hlost, List.map_append, List.sum_append, List.map_singleton, List.sum_singleton]

/-- Outside there is nothing left but the blocks that are lost. -/
theorem Process.Sound.outside (hsound : process.Sound) (hmain : process.main = .outside) :
    process.thread = none ∧ (∀ addr, process.queue.nodes addr = none) ∧
      process.ledger.held = process.lost := by
  obtain ⟨addrs, packets, hcontrolled, haccounts⟩ := hsound
  have hpriv := hcontrolled.priv.mpr hmain
  have hthread := hcontrolled.thread_eq_none (by rw [hmain]; rfl)
  obtain ⟨rfl, rfl⟩ := hcontrolled.outside hmain
  refine ⟨hthread, fun addr => ?_, ?_⟩
  · by_contra hnode
    rcases hcontrolled.stray addr hnode with hmem | hreleasing
    · cases hmem
    · rw [hmain] at hreleasing
      cases hreleasing
  · rw [haccounts.held, Process.owned, Process.inHand, hpriv, hthread, hmain]
    simp only [Option.elim_none, Multiset.coe_nil, add_zero, zero_add]

end MiniGdbstub.Lifecycle
