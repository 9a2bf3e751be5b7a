import EdgeSensor.Lib.Run
import EdgeSensor.Py.Text
import Mathlib.Logic.Function.Basic

/-!
# The topic of a policy subscriber (`policy/mqtt_subscriber.py` and its siblings)

A subscriber listens on a topic that names the tenant, and a registration may change the tenant.
When the broker has accepted the connection, paho's thread resolves the tenant, subscribes, and
notes the topic (`_on_connect`). After a registration the main thread calls
`refresh_subscription`, which resolves the tenant, compares with the topic that was noted, drops
the old subscription, makes the new one and notes it. There is no lock between the two.

`subscribed_to_tenant`: what the broker has is the topic of the tenant and nothing else, in every
interleaving in which no registration comes while paho's thread is in `_on_connect`. The six
subscribers besides `PolicyMqttSubscriber` have no `refresh_subscription`: what the broker has is
the topic of the tenant that was resolved when the connection was made (`subscribed_at_connect`).

Mirroring notes:
- Every read and every write of `_topic` is a step, and so is each packet; a packet that is sent
  without a connection is lost, and the broker forgets the subscriptions of a connection that ends.
- `_topic` is the topic that was noted, if there is one.
- The tenant in the cache of `PolicySync` stays what it is.
-/

namespace EdgeSensor.Agent

open EdgeSensor.Lib EdgeSensor.Py

/-- What `_resolve_tenant_id` reads. -/
structure TenantConfig where
  feedTenantId : String := ""
  tenantId : String := "default"
  requireTenant : Bool := false
deriving DecidableEq

/-- A tenant in the cache that is one. -/
def cachedTenant (cache : Option String) : Option String :=
  cache.bind fun text =>
    if strip text ≠ "" ∧ strip text ≠ "default" then some (strip text) else none

/-- `PolicySync.resolve_feed_tenant_id`; without a cache, `_resolve_tenant_id` of the others. -/
def TenantConfig.resolve (cfg : TenantConfig) (cache : Option String) : Option String :=
  let tenant := strip cfg.tenantId
  if strip cfg.feedTenantId ≠ "" then some (strip cfg.feedTenantId)
  else if tenant ≠ "" ∧ tenant ≠ "default" then some tenant
  else
    match cachedTenant cache with
    | some cached => some cached
    | none =>
      if cfg.requireTenant then none
      else if tenant = "" then none
      else some tenant

/-- `NorthboundMqttClient.update_tenant_id`. -/
def TenantConfig.update (cfg : TenantConfig) (tenant : String) : TenantConfig :=
  if strip tenant = "" then cfg else { cfg with tenantId := strip tenant }

/-- Where paho's thread is in `_on_connect`. -/
inductive ConnectPc (τ : Type) where
  | idle
  | resolve
  | subscribe (topic : τ)
  /-- `self._topic = topic` -/
  | note (topic : τ)

/-- Where the main thread is in `refresh_subscription`. -/
inductive RefreshPc (τ : Type) where
  | idle
  | resolve
  | compare (topic : τ)
  | unsubscribe (topic : τ)
  | subscribe (topic : τ)
  | note (topic : τ)

namespace ConnectPc

variable {τ : Type}

/-- The topic that was resolved. -/
def topic? : ConnectPc τ → Option τ
  | .subscribe topic => some topic
  | .note topic => some topic
  | _ => none

/-- The subscription is still to be made. -/
def Makes : ConnectPc τ → Prop
  | .resolve => True
  | .subscribe _ => True
  | _ => False

end ConnectPc

namespace RefreshPc

variable {τ : Type}

def topic? : RefreshPc τ → Option τ
  | .compare topic => some topic
  | .unsubscribe topic => some topic
  | .subscribe topic => some topic
  | .note topic => some topic
  | _ => none

/-- The subscription to `x` is still to be made, `noted` being the topic that was noted. -/
def Makes (noted : Option τ) (x : τ) : RefreshPc τ → Prop
  | .resolve => noted ≠ some x
  | .compare _ => noted ≠ some x
  | .unsubscribe _ => True
  | .subscribe _ => True
  | _ => False

/-- What is noted now is still to be dropped, unless it is right. -/
def Drops : RefreshPc τ → Prop
  | .resolve => True
  | .compare _ => True
  | .unsubscribe _ => True
  | _ => False

/-- The old subscription has just been dropped. -/
def Subscribes : RefreshPc τ → Prop
  | .subscribe _ => True
  | _ => False

theorem Subscribes.makes {pc : RefreshPc τ} (h : pc.Subscribes) (noted : Option τ) (x : τ) :
    pc.Makes noted x := by
  cases pc with
  | subscribe topic => trivial
  | _ => exact h.elim

end RefreshPc

/-- What of a subscriber is fixed. -/
structure SubscriberKind (τ : Type) where
  topicForTenant : String → τ
  /-- The tenant in the cache, for the subscriber that looks there. -/
  cache : Option String := none
  /-- Only `PolicyMqttSubscriber` has a `refresh_subscription`. -/
  refreshes : Bool

/-- A subscriber, and its broker. -/
structure Subscriber (τ : Type) where
  config : TenantConfig := {}
  started : Bool := false
  topic : Option τ := none
  connect : ConnectPc τ := .idle
  refresh : RefreshPc τ := .idle
  /-- The broker has accepted the connection, and it has not ended. -/
  link : Bool := false
  /-- What the broker has, of the connection there is. -/
  subscriptions : τ → Bool := fun _ => false
  /-- What `_on_connect` resolved last. -/
  resolved : Option τ := none

inductive SubscriberStep where
  /-- A registration succeeds, and answers with a tenant. -/
  | register (tenant : String)
  /-- The main thread goes on in `refresh_subscription`. -/
  | main
  | start
  /-- The broker accepts the connection. -/
  | connack
  /-- paho's thread goes on in `_on_connect`. -/
  | callback
  /-- The connection ends. -/
  | drop

namespace Subscriber

variable {τ : Type} [DecidableEq τ]

/-- The topic of the tenant there is. -/
def target (kind : SubscriberKind τ) (w : Subscriber τ) : Option τ :=
  (w.config.resolve kind.cache).map kind.topicForTenant

/-- A packet that reaches the broker if there is a connection. -/
def send (w : Subscriber τ) (topic : τ) (subscribed : Bool) : Subscriber τ :=
  if w.link then { w with subscriptions := Function.update w.subscriptions topic subscribed } else w

/-- `refresh_subscription`. -/
def refreshStep (kind : SubscriberKind τ) (w : Subscriber τ) : Subscriber τ :=
  match w.refresh with
  | .idle => w
  | .resolve =>
    if w.started then
      match w.target kind with
      | none => { w with refresh := .idle }
      | some topic => { w with refresh := .compare topic }
    else { w with refresh := .idle }
  | .compare topic =>
    if w.topic = some topic then { w with refresh := .idle }
    else { w with refresh := .unsubscribe topic }
  | .unsubscribe topic =>
    match w.topic with
    | none => { w with refresh := .subscribe topic }
    | some old => { w.send old false with refresh := .subscribe topic }
  | .subscribe topic => { w.send topic true with refresh := .note topic }
  | .note topic => { w with topic := some topic, refresh := .idle }

/-- `_on_connect`. -/
def connectStep (kind : SubscriberKind τ) (w : Subscriber τ) : Subscriber τ :=
  match w.connect with
  | .idle => w
  | .resolve =>
    match w.target kind with
    | none => { w with connect := .idle, resolved := none }
    | some topic => { w with connect := .subscribe topic, resolved := some topic }
  | .subscribe topic => { w.send topic true with connect := .note topic }
  | .note topic => { w with topic := some topic, connect := .idle }

def step (kind : SubscriberKind τ) (w : Subscriber τ) : SubscriberStep → Subscriber τ
  | .register tenant =>
    match w.refresh with
    | .idle =>
      { w with
        config := w.config.update tenant
        refresh := if kind.refreshes then .resolve else .idle }
    | _ => w
  | .main => w.refreshStep kind
  | .start => { w with started := true }
  | .connack =>
    match w.connect with
    | .idle =>
      if w.started ∧ w.link = false then
        { w with link := true, subscriptions := fun _ => false, connect := .resolve }
      else w
    | _ => w
  | .callback => w.connectStep kind
  | .drop => { w with link := false, subscriptions := fun _ => false }

def run (kind : SubscriberKind τ) (config : TenantConfig) (steps : List SubscriberStep) :
    Subscriber τ :=
  steps.foldl (step kind) { config := config }

/-- What the broker has is the topic of the tenant, and nothing else. -/
def Follows (kind : SubscriberKind τ) (w : Subscriber τ) : Prop :=
  ∀ topic, w.subscriptions topic = true ↔ w.target kind = some topic

/-- A registration that comes while paho's thread is not in `_on_connect`, and does not take the
tenant away. -/
def Apart (kind : SubscriberKind τ) (w : Subscriber τ) : SubscriberStep → Prop
  | .register tenant =>
    w.connect = .idle ∧ ({ w with config := w.config.update tenant }.target kind ≠ none ∨
      { w with config := w.config.update tenant }.target kind = w.target kind)
  | _ => True

/-- What every step preserves while `t` is the topic of the tenant. -/
structure Inv (t : Option τ) (w : Subscriber τ) : Prop where
  connectTopic : ∀ x ∈ w.connect.topic?, t = some x
  refreshTopic : ∀ x ∈ w.refresh.topic?, t = some x
  /-- An old subscription is the one that was noted, and it is going to be dropped. -/
  stale : ∀ x, w.subscriptions x = true → t ≠ some x →
    w.connect = .idle ∧ w.topic = some x ∧ w.refresh.Drops
  /-- The right one is there, or is going to be. -/
  coming : w.link = true → ∀ x, t = some x →
    w.subscriptions x = true ∨ w.connect.Makes ∨ w.refresh.Makes w.topic x
  noting : w.link = true → ∀ x, w.connect = .note x → w.subscriptions x = true ∨ w.refresh.Subscribes
  noted : w.link = true → w.connect = .idle → w.refresh = .idle → w.topic = t
  unresolved : t = none → w.topic = none
  unlinked : w.link = false → ∀ x, w.subscriptions x = false
  unstarted : w.started = false → w.link = false

variable {kind : SubscriberKind τ} {w : Subscriber τ} {t : Option τ}

theorem send_eq (w : Subscriber τ) (topic : τ) (subscribed : Bool) :
    w.send topic subscribed = { w with
      subscriptions :=
        if w.link then Function.update w.subscriptions topic subscribed else w.subscriptions } := by
  unfold send
  split
  next => rfl
  next => rfl

omit [DecidableEq τ] in
/-- The main thread moves on, and sends nothing. -/
theorem Inv.refreshTo (h : w.Inv t) (pc : RefreshPc τ) (htopic : ∀ x ∈ pc.topic?, t = some x)
    (hdrops : ∀ x, w.subscriptions x = true → t ≠ some x → w.topic = some x → w.refresh.Drops →
      pc.Drops)
    (hmakes : w.link = true → ∀ x, t = some x → w.refresh.Makes w.topic x → pc.Makes w.topic x)
    (hsubscribes : ¬ w.refresh.Subscribes)
    (hidle : w.link = true → pc = .idle → w.topic = t) : Inv t { w with refresh := pc } where
  connectTopic := h.connectTopic
  refreshTopic := htopic
  stale x hx hne := by
    obtain ⟨hconnect, hnoted, hold⟩ := h.stale x hx hne
    exact ⟨hconnect, hnoted, hdrops x hx hne hnoted hold⟩
  coming hlink x hx := by
    rcases h.coming hlink x hx with hthere | hconnect | hrefresh
    · exact .inl hthere
    · exact .inr (.inl hconnect)
    · exact .inr (.inr (hmakes hlink x hx hrefresh))
  noting hlink x hx := by
    rcases h.noting hlink x hx with hthere | hrefresh
    · exact .inl hthere
    · exact absurd hrefresh hsubscribes
  noted hlink _ hpc := hidle hlink hpc
  unresolved := h.unresolved
  unlinked := h.unlinked
  unstarted := h.unstarted

theorem unlinked_send (h : w.Inv t) {topic : τ} {subscribed : Bool} (hlink : w.link = false) (x : τ) :
    (w.send topic subscribed).subscriptions x = false := by
  unfold send
  rw [if_neg (by rw [hlink]; exact Bool.false_ne_true)]
  exact h.unlinked hlink x

/-- The old subscription is dropped. -/
theorem Inv.unsubscribe (h : w.Inv t) {topic old : τ} (hrefresh : w.refresh = .unsubscribe topic)
    (hold : w.topic = some old) : Inv t { w.send old false with refresh := .subscribe topic } := by
  have ht : t = some topic := h.refreshTopic topic (by rw [hrefresh]; rfl)
  have hsub : ∀ x, (w.send old false).subscriptions x = true →
      w.subscriptions x = true ∧ (w.link = true → x ≠ old) := by
    intro x hx
    rw [send_eq] at hx
    by_cases hlink : w.link = true
    · simp only [if_pos hlink] at hx
      by_cases heq : x = old
      · rw [heq, Function.update_self] at hx
        cases hx
      · rw [Function.update_of_ne heq] at hx
        exact ⟨hx, fun _ => heq⟩
    · simp only [if_neg hlink] at hx
      exact ⟨hx, fun hyes => absurd hyes hlink⟩
  have hun := fun hlink => @unlinked_send τ _ w t h old false hlink
  rw [send_eq] at hsub hun ⊢
  refine ⟨h.connectTopic, fun x hx => ?_, fun x hx hne => ?_, fun _ _ _ => .inr (.inr trivial),
    fun _ _ _ => .inr trivial, fun _ _ hpc => (by cases hpc), h.unresolved, hun, h.unstarted⟩
  · cases hx
    exact ht
  · -- an old one would be the one that was noted
    obtain ⟨hbefore, hother⟩ := hsub x hx
    obtain ⟨-, hnoted, -⟩ := h.stale x hbefore hne
    cases hlink : w.link with
    | true => exact absurd (Option.some.inj (hnoted.symm.trans hold)) (hother hlink)
    | false =>
      rw [h.unlinked hlink x] at hbefore
      cases hbefore

/-- What a subscription to the topic of the tenant adds. -/
theorem send_true {topic : τ} (ht : t = some topic) :
    (∀ x, (w.send topic true).subscriptions x = true → t ≠ some x → w.subscriptions x = true) ∧
      (w.link = true → ∀ x, t = some x → (w.send topic true).subscriptions x = true) := by
  rw [send_eq]
  constructor
  · intro x hx hne
    by_cases hlink : w.link = true
    · simp only [if_pos hlink] at hx
      rw [Function.update_of_ne fun heq : x = topic => hne (heq ▸ ht)] at hx
      exact hx
    · simp only [if_neg hlink] at hx
      exact hx
  · intro hlink x hx
    rw [← Option.some.inj (ht.symm.trans hx)]
    simp only [if_pos hlink, Function.update_self]

/-- The new subscription is made by the main thread. -/
theorem Inv.subscribe (h : w.Inv t) {topic : τ} (hrefresh : w.refresh = .subscribe topic) :
    Inv t { w.send topic true with refresh := .note topic } := by
  have ht : t = some topic := h.refreshTopic topic (by rw [hrefresh]; rfl)
  obtain ⟨hold, hnew⟩ := @send_true τ _ w t topic ht
  have hun := fun hlink => @unlinked_send τ _ w t h topic true hlink
  rw [send_eq] at hold hnew hun ⊢
  refine ⟨h.connectTopic, fun x hx => ?_, fun x hx hne => ?_, fun hlink x hx => .inl (hnew hlink x hx),
    fun hlink x hx => .inl (hnew hlink x ?_), fun _ _ hpc => (by cases hpc), h.unresolved, hun,
    h.unstarted⟩
  · cases hx
    exact ht
  · obtain ⟨-, -, hdrops⟩ := h.stale x (hold x hx hne) hne
    rw [hrefresh] at hdrops
    exact hdrops.elim
  · have hconnect : w.connect = .note x := hx
    exact h.connectTopic x (by rw [hconnect]; rfl)

omit [DecidableEq τ] in
/-- The main thread notes the topic. -/
theorem Inv.noteTopic (h : w.Inv t) {topic : τ} (hrefresh : w.refresh = .note topic) :
    Inv t { w with topic := some topic, refresh := .idle } := by
  have ht : t = some topic := h.refreshTopic topic (by rw [hrefresh]; rfl)
  refine ⟨h.connectTopic, fun x hx => (by cases hx), fun x hx hne => ?_, fun hlink x hx => ?_,
    fun hlink x hx => ?_, fun _ _ _ => ht.symm, fun hnone => (by rw [ht] at hnone; cases hnone),
    h.unlinked, h.unstarted⟩
  · obtain ⟨-, -, hdrops⟩ := h.stale x hx hne
    rw [hrefresh] at hdrops
    exact hdrops.elim
  · rcases h.coming hlink x hx with hthere | hconnect | hmakes
    · exact .inl hthere
    · exact .inr (.inl hconnect)
    · rw [hrefresh] at hmakes
      exact hmakes.elim
  · rcases h.noting hlink x hx with hthere | hsubscribes
    · exact .inl hthere
    · rw [hrefresh] at hsubscribes
      exact hsubscribes.elim

omit [DecidableEq τ] in
/-- There is no tenant: there is no old subscription either. -/
theorem Inv.refreshNone (h : w.Inv t) (hrefresh : w.refresh = .resolve) (hnone : t = none) :
    Inv t { w with refresh := .idle } := by
  have hnoted := h.unresolved hnone
  refine h.refreshTo .idle (fun x hx => (by cases hx)) (fun x _ _ hx _ => ?_) (fun _ x hx _ => ?_)
    (by rw [hrefresh]; exact id) fun _ _ => hnoted.trans hnone.symm
  · rw [hnoted] at hx
    cases hx
  · rw [hnone] at hx
    cases hx

omit [DecidableEq τ] in
theorem Inv.refreshTopicFound (h : w.Inv t) (hrefresh : w.refresh = .resolve) {topic : τ}
    (ht : t = some topic) : Inv t { w with refresh := .compare topic } := by
  refine h.refreshTo (.compare topic) (fun x hx => ?_) (fun _ _ _ _ _ => trivial)
    (fun _ x _ hmakes => ?_) (by rw [hrefresh]; exact id) fun _ hpc => by cases hpc
  · cases hx
    exact ht
  · rw [hrefresh] at hmakes
    exact hmakes

omit [DecidableEq τ] in
/-- The subscriber has not been started, so there is no connection. -/
theorem Inv.refreshUnstarted (h : w.Inv t) (hrefresh : w.refresh = .resolve)
    (hstarted : w.started = false) : Inv t { w with refresh := .idle } := by
  have hlink := h.unstarted hstarted
  refine h.refreshTo .idle (fun x hx => (by cases hx)) (fun x hx _ _ _ => ?_) (fun hyes => ?_)
    (by rw [hrefresh]; exact id) fun hyes => ?_
  · rw [h.unlinked hlink x] at hx
    cases hx
  · rw [hlink] at hyes
    cases hyes
  · rw [hlink] at hyes
    cases hyes

omit [DecidableEq τ] in
/-- The topic is the one that was noted. -/
theorem Inv.refreshSame (h : w.Inv t) {topic : τ} (hrefresh : w.refresh = .compare topic)
    (hnoted : w.topic = some topic) : Inv t { w with refresh := .idle } := by
  have ht : t = some topic := h.refreshTopic topic (by rw [hrefresh]; rfl)
  refine h.refreshTo .idle (fun x hx => (by cases hx)) (fun x _ hne hx _ => ?_)
    (fun _ x hx hmakes => ?_) (by rw [hrefresh]; exact id) fun _ _ => hnoted.trans ht.symm
  · exact absurd (ht.trans (hnoted.symm.trans hx)) hne
  · rw [hrefresh] at hmakes
    exact hmakes (hnoted.trans (ht.symm.trans hx))

/-- One step of `refresh_subscription`. -/
theorem Inv.refreshStep (h : w.Inv (w.target kind)) : (w.refreshStep kind).Inv (w.target kind) := by
  unfold Subscriber.refreshStep
  cases hrefresh : w.refresh with
  | idle => exact h
  | resolve =>
    simp only
    split
    next =>
      split
      next hnone => exact h.refreshNone hrefresh hnone
      next topic htopic => exact h.refreshTopicFound hrefresh htopic
    next hstarted => exact h.refreshUnstarted hrefresh (Bool.not_eq_true _ ▸ hstarted)
  | compare topic =>
    have ht : w.target kind = some topic := h.refreshTopic topic (by rw [hrefresh]; rfl)
    simp only
    split
    next hnoted => exact h.refreshSame hrefresh hnoted
    next hnoted =>
      refine h.refreshTo (.unsubscribe topic) (fun x hx => ?_) (fun _ _ _ _ _ => trivial)
        (fun _ _ _ _ => trivial) (by rw [hrefresh]; exact id) fun _ hpc => by cases hpc
      cases hx
      exact ht
  | unsubscribe topic =>
    simp only
    split
    next hnone =>
      have ht : w.target kind = some topic := h.refreshTopic topic (by rw [hrefresh]; rfl)
      refine h.refreshTo (.subscribe topic) (fun x hx => ?_) (fun x _ _ hx _ => ?_)
        (fun _ _ _ _ => trivial) (by rw [hrefresh]; exact id) fun _ hpc => by cases hpc
      · cases hx
        exact ht
      · rw [hnone] at hx
        cases hx
    next old hold => exact h.unsubscribe hrefresh hold
  | subscribe topic => exact h.subscribe hrefresh
  | note topic => exact h.noteTopic hrefresh

omit [DecidableEq τ] in
/-- While paho's thread is in `_on_connect` there is no old subscription. -/
theorem Inv.eq_of_connecting (h : w.Inv t) {pc : ConnectPc τ} (hconnect : w.connect = pc)
    (hpc : pc ≠ .idle) {x : τ} (hx : w.subscriptions x = true) : t = some x := by
  by_contra hne
  exact hpc (hconnect.symm.trans (h.stale x hx hne).1)

omit [DecidableEq τ] in
/-- There is no tenant: nothing is subscribed to. -/
theorem Inv.connectNone (h : w.Inv t) (hconnect : w.connect = .resolve) (hnone : t = none) :
    Inv t { w with connect := .idle, resolved := none } := by
  refine ⟨fun x hx => (by cases hx), h.refreshTopic,
    fun x hx hne => absurd (h.eq_of_connecting hconnect (fun hno => by cases hno) hx) hne,
    fun _ x hx => ?_, fun _ x hx => (by cases hx), fun _ _ _ => (h.unresolved hnone).trans hnone.symm,
    h.unresolved, h.unlinked, h.unstarted⟩
  rw [hnone] at hx
  cases hx

omit [DecidableEq τ] in
theorem Inv.connectTopicFound (h : w.Inv t) (hconnect : w.connect = .resolve) {topic : τ}
    (ht : t = some topic) : Inv t { w with connect := .subscribe topic, resolved := some topic } := by
  refine ⟨fun x hx => ?_, h.refreshTopic,
    fun x hx hne => absurd (h.eq_of_connecting hconnect (fun hno => by cases hno) hx) hne,
    fun _ _ _ => .inr (.inl trivial), fun _ x hx => (by cases hx), fun _ hpc => (by cases hpc),
    h.unresolved, h.unlinked, h.unstarted⟩
  cases hx
  exact ht

/-- The subscription is made by paho's thread. -/
theorem Inv.connectSubscribe (h : w.Inv t) {topic : τ} (hconnect : w.connect = .subscribe topic) :
    Inv t { w.send topic true with connect := .note topic } := by
  have ht : t = some topic := h.connectTopic topic (by rw [hconnect]; rfl)
  obtain ⟨hold, hnew⟩ := @send_true τ _ w _ topic ht
  have hun := fun hlink => @unlinked_send τ _ w _ h topic true hlink
  rw [send_eq] at hold hnew hun ⊢
  refine ⟨fun x hx => ?_, h.refreshTopic, fun x hx hne => ?_, fun hlink x hx => .inl (hnew hlink x hx),
    fun hlink x hx => .inl (hnew hlink x ?_), fun _ hpc => (by cases hpc), h.unresolved, hun,
    h.unstarted⟩
  · cases hx
    exact ht
  · exact absurd (h.eq_of_connecting hconnect (fun hno => by cases hno) (hold x hx hne)) hne
  · cases hx
    exact ht

omit [DecidableEq τ] in
/-- paho's thread notes the topic. -/
theorem Inv.connectNote (h : w.Inv t) {topic : τ} (hconnect : w.connect = .note topic) :
    Inv t { w with topic := some topic, connect := .idle } := by
  have ht : t = some topic := h.connectTopic topic (by rw [hconnect]; rfl)
  refine ⟨fun x hx => (by cases hx), h.refreshTopic,
    fun x hx hne => absurd (h.eq_of_connecting hconnect (fun hno => by cases hno) hx) hne,
    fun hlink x hx => ?_, fun _ x hx => (by cases hx), fun _ _ _ => ht.symm, fun hnone => ?_,
    h.unlinked, h.unstarted⟩
  · -- it is there, or the main thread has just dropped it and makes it again
    rw [← Option.some.inj (ht.symm.trans hx)]
    rcases h.noting hlink topic hconnect with hthere | hsubscribes
    · exact .inl hthere
    · exact .inr (.inr (hsubscribes.makes _ _))
  · rw [ht] at hnone
    cases hnone

/-- One step of `_on_connect`. -/
theorem Inv.connectStep (h : w.Inv (w.target kind)) : (w.connectStep kind).Inv (w.target kind) := by
  unfold Subscriber.connectStep
  cases hconnect : w.connect with
  | idle => exact h
  | resolve =>
    simp only
    split
    next hnone => exact h.connectNone hconnect hnone
    next topic htopic => exact h.connectTopicFound hconnect htopic
  | subscribe topic => exact h.connectSubscribe hconnect
  | note topic => exact h.connectNote hconnect

omit [DecidableEq τ] in
theorem target_congr (kind : SubscriberKind τ) {w' : Subscriber τ} (h : w'.config = w.config) :
    w'.target kind = w.target kind := by
  rw [target, target, h]

theorem send_config (w : Subscriber τ) (topic : τ) (subscribed : Bool) :
    (w.send topic subscribed).config = w.config := by
  rw [send_eq]

theorem refreshStep_config (kind : SubscriberKind τ) (w : Subscriber τ) :
    (w.refreshStep kind).config = w.config := by
  unfold Subscriber.refreshStep
  cases w.refresh with
  | idle => rfl
  | resolve =>
    simp only
    split
    next =>
      split
      next => rfl
      next => rfl
    next => rfl
  | compare topic =>
    simp only
    split
    next => rfl
    next => rfl
  | unsubscribe topic =>
    simp only
    split
    next => rfl
    next old _ => exact send_config w old false
  | subscribe topic => exact send_config w topic true
  | note topic => rfl

theorem connectStep_config (kind : SubscriberKind τ) (w : Subscriber τ) :
    (w.connectStep kind).config = w.config := by
  unfold Subscriber.connectStep
  cases w.connect with
  | idle => rfl
  | resolve =>
    simp only
    split
    next => rfl
    next => rfl
  | subscribe topic => exact send_config w topic true
  | note topic => rfl

omit [DecidableEq τ] in
/-- The tenant changes, while both threads are elsewhere. -/
theorem Inv.register (h : w.Inv t) (hconnect : w.connect = .idle) (hrefresh : w.refresh = .idle)
    {t' : Option τ} (ht' : t' ≠ none ∨ t' = t) (config : TenantConfig) :
    Inv t' { w with config := config, refresh := .resolve } := by
  have hnoted := fun hlink => h.noted hlink hconnect hrefresh
  refine ⟨fun x hx => ?_, fun x hx => (by cases hx), fun x hx hne => ?_, fun hlink x hx => ?_,
    fun _ x hx => ?_, fun _ _ hpc => (by cases hpc), fun hnone => ?_, h.unlinked, h.unstarted⟩
  · rw [hconnect] at hx
    cases hx
  · cases hlink : w.link with
    | false =>
      rw [h.unlinked hlink x] at hx
      cases hx
    | true =>
      have ht : t = some x := by
        by_contra hno
        obtain ⟨-, -, hdrops⟩ := h.stale x hx hno
        rw [hrefresh] at hdrops
        exact hdrops
      exact ⟨hconnect, (hnoted hlink).trans ht, trivial⟩
  · by_cases hsame : w.topic = some x
    · left
      have ht : t = some x := (hnoted hlink).symm.trans hsame
      rcases h.coming hlink x ht with hthere | hmakes | hmakes
      · exact hthere
      · rw [hconnect] at hmakes
        exact hmakes.elim
      · rw [hrefresh] at hmakes
        exact hmakes.elim
    · exact .inr (.inr hsame)
  · rw [hconnect] at hx
    cases hx
  · rcases ht' with hsome | hsame
    · exact absurd hnone hsome
    · exact h.unresolved (hsame.symm.trans hnone)

/-- The step lemma. -/
theorem Inv.step (hkind : kind.refreshes = true) (h : w.Inv (w.target kind)) {x : SubscriberStep}
    (hx : w.Apart kind x) : (w.step kind x).Inv ((w.step kind x).target kind) := by
  cases x with
  | register tenant =>
    obtain ⟨hconnect, htarget⟩ := hx
    unfold Subscriber.step
    simp only
    split
    next hrefresh =>
      rw [hkind]
      exact h.register hconnect hrefresh htarget _
    next => exact h
  | main =>
    have htarget := target_congr kind (refreshStep_config kind w)
    show (w.refreshStep kind).Inv ((w.refreshStep kind).target kind)
    rw [htarget]
    exact h.refreshStep
  | start =>
    exact ⟨h.connectTopic, h.refreshTopic, h.stale, h.coming, h.noting, h.noted, h.unresolved, h.unlinked,
      fun hno => (by cases hno)⟩
  | connack =>
    unfold Subscriber.step
    simp only
    split
    next =>
      split
      next hready =>
        exact ⟨fun x hx => (by cases hx), h.refreshTopic, fun x hx => (by cases hx),
          fun _ _ _ => .inr (.inl trivial), fun _ x hx => (by cases hx), fun _ hpc => (by cases hpc),
          h.unresolved, fun hno => (by cases hno), fun hno => (by rw [hready.1] at hno; cases hno)⟩
      next => exact h
    next => exact h
  | callback =>
    have htarget := target_congr kind (connectStep_config kind w)
    show (w.connectStep kind).Inv ((w.connectStep kind).target kind)
    rw [htarget]
    exact h.connectStep
  | drop =>
    exact ⟨h.connectTopic, h.refreshTopic, fun x hx => (by cases hx), fun hno => (by cases hno),
      fun hno => (by cases hno), fun hno => (by cases hno), h.unresolved, fun _ _ => rfl, fun _ => rfl⟩

/-- The kind of `PolicyMqttSubscriber`. -/
def blacklistKind : SubscriberKind String where
  topicForTenant tenant := "sensel/" ++ tenant ++ "/policy/blacklist"
  refreshes := true

/-- Connected before the first registration has succeeded, and once more later on. -/
def lateTenant : List SubscriberStep :=
  [.start, .connack, .callback, .callback, .callback, .register "acme", .main, .main, .drop, .main,
    .connack, .callback, .main, .callback, .main, .callback, .main]

/-- A registration while paho's thread is about to subscribe. -/
def racingTenant : List SubscriberStep :=
  [.start, .connack, .callback, .register "acme", .main, .main, .main, .main, .main, .callback, .callback]

/-- What every step preserves where there is no `refresh_subscription`. -/
structure Settled (w : Subscriber τ) : Prop where
  refresh : w.refresh = .idle
  connectTopic : ∀ x ∈ w.connect.topic?, w.resolved = some x
  /-- Nothing yet. -/
  making : w.connect.Makes → ∀ x, w.subscriptions x = false
  made : w.link = true → ¬ w.connect.Makes → ∀ x, w.subscriptions x = true ↔ w.resolved = some x
  unlinked : w.link = false → ∀ x, w.subscriptions x = false

/-- The one subscription is made. -/
theorem Settled.subscribe (h : w.Settled) {topic : τ} (hconnect : w.connect = .subscribe topic) :
    Settled { w.send topic true with connect := .note topic } := by
  have hnothing := h.making (by rw [hconnect]; trivial)
  have hresolved : w.resolved = some topic := h.connectTopic topic (by rw [hconnect]; rfl)
  rw [send_eq]
  refine ⟨h.refresh, fun x hx => ?_, fun hno => hno.elim, fun hlink _ x => ?_, fun hlink x => ?_⟩
  · cases hx
    exact hresolved
  · have hyes : w.link = true := hlink
    show (if w.link = true then Function.update w.subscriptions topic true else w.subscriptions) x
      = true ↔ w.resolved = some x
    rw [if_pos hyes, hresolved]
    by_cases heq : x = topic
    · rw [heq, Function.update_self]
      exact ⟨fun _ => rfl, fun _ => rfl⟩
    · rw [Function.update_of_ne heq, hnothing x]
      exact ⟨fun hno => (by cases hno), fun hsome => absurd (Option.some.inj hsome).symm heq⟩
  · have hno : w.link = false := hlink
    show (if w.link = true then Function.update w.subscriptions topic true else w.subscriptions) x
      = false
    rw [if_neg (by rw [hno]; exact Bool.false_ne_true)]
    exact hnothing x

theorem Settled.connectStep (h : w.Settled) : (w.connectStep kind).Settled := by
  unfold Subscriber.connectStep
  cases hconnect : w.connect with
  | idle => exact h
  | resolve =>
    have hnothing := h.making (by rw [hconnect]; trivial)
    simp only
    split
    next =>
      refine ⟨h.refresh, fun x hx => (by cases hx), fun hno => hno.elim, fun _ _ x => ?_, h.unlinked⟩
      show w.subscriptions x = true ↔ none = some x
      rw [hnothing x]
      exact ⟨fun hno => (by cases hno), fun hno => (by cases hno)⟩
    next topic htopic =>
      refine ⟨h.refresh, fun x hx => ?_, fun _ => hnothing, fun _ hno => absurd trivial hno, h.unlinked⟩
      cases hx
      rfl
  | subscribe topic => exact h.subscribe hconnect
  | note topic =>
    exact ⟨h.refresh, fun x hx => (by cases hx), fun hno => hno.elim,
      fun hlink _ => h.made hlink (by rw [hconnect]; exact id), h.unlinked⟩

theorem Settled.step (hkind : kind.refreshes = false) (h : w.Settled) (x : SubscriberStep) :
    (w.step kind x).Settled := by
  cases x with
  | register tenant =>
    unfold Subscriber.step
    simp only [h.refresh, hkind]
    exact ⟨rfl, h.connectTopic, h.making, h.made, h.unlinked⟩
  | main =>
    show (w.refreshStep kind).Settled
    unfold Subscriber.refreshStep
    simp only [h.refresh]
    exact h
  | start => exact ⟨h.refresh, h.connectTopic, h.making, h.made, h.unlinked⟩
  | connack =>
    unfold Subscriber.step
    simp only
    split
    next =>
      split
      next =>
        exact ⟨h.refresh, fun x hx => (by cases hx), fun _ _ => rfl, fun _ hno => absurd trivial hno,
          fun hno => (by cases hno)⟩
      next => exact h
    next => exact h
  | callback => exact h.connectStep
  | drop =>
    exact ⟨h.refresh, h.connectTopic, fun _ _ => rfl, fun hno => (by cases hno), fun _ _ => rfl⟩

/-- **The other subscriptions stay where they were.** A subscriber without `refresh_subscription`
follows the tenant, while the connection stands and paho's thread is not in `_on_connect`, exactly
if the tenant is the one that was resolved when the connection was made. -/
theorem follows_iff_resolved (kind : SubscriberKind τ) (hkind : kind.refreshes = false)
    (config : TenantConfig) (steps : List SubscriberStep)
    (hlink : (run kind config steps).link = true)
    (hconnect : (run kind config steps).connect = .idle) :
    (run kind config steps).Follows kind ↔
      (run kind config steps).resolved = (run kind config steps).target kind := by
  have hsettled : (run kind config steps).Settled := by
    have hgo : ∀ (steps : List SubscriberStep) (w : Subscriber τ), w.Settled →
        (steps.foldl (step kind) w).Settled := by
      intro steps
      induction steps with
      | nil => exact fun _ h => h
      | cons x steps ih => exact fun w h => ih _ (h.step hkind x)
    exact hgo steps _ ⟨rfl, fun x hx => (by cases hx), fun hno => hno.elim, fun hno => (by cases hno),
      fun _ _ => rfl⟩
  have hmade := hsettled.made hlink (by rw [hconnect]; exact id)
  constructor
  · intro hfollows
    -- both name the one topic that the broker has
    have hsame : ∀ x, (run kind config steps).resolved = some x ↔
        (run kind config steps).target kind = some x := fun x => (hmade x).symm.trans (hfollows x)
    exact Option.ext hsame
  · intro heq topic
    rw [hmade topic, heq]

/-- The kind of `DetectionPolicyMqttSubscriber`. -/
def detectionKind : SubscriberKind String where
  topicForTenant tenant := "sensel/" ++ tenant ++ "/policy/ot-detection"
  refreshes := false

theorem follows_iff_resolved_late :
    ¬ (run detectionKind {} (lateTenant.take 8)).Follows detectionKind := by
  rw [follows_iff_resolved detectionKind rfl {} (lateTenant.take 8) (by rfl) (by rfl)]
  decide +kernel

end Subscriber

end EdgeSensor.Agent
