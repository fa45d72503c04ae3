import AssetWatch.Proofs.Cache.Answer

/-!
# Verbose caches

A verbose cache makes more reports than one that is not, and that is all. What the reports of a
cache are without these details is said for each operation; verbosity occurs in none of the
answers. So a cache can be muted before an operation or after it, and nothing else differs
(`value_put_muted`, `essentials_log_put_muted`).
-/

namespace AssetWatch

/-! ## Details -/

namespace Diagnostic

/-- The messages of the reports that only a verbose cache makes. -/
def detailMessages : List String :=
  ["Asset notification", "TTL updated", "Last seen updated", "Asset added", "Asset removed",
    "Evaluating dead assets", "Checking asset"]

/-- Whether a report is one that only a verbose cache makes. -/
def isDetail (diagnostic : Diagnostic) : Bool :=
  diagnostic.entry.level = .debug && diagnostic.entry.target = "outage_core::cache" &&
    detailMessages.contains diagnostic.entry.message

variable (asset : AssetName)

@[simp] theorem isDetail_noticeReceived (operation : Operation) :
    (noticeReceived asset operation).isDetail = true := rfl

@[simp] theorem isDetail_assetAdded (now expiresAt : Seconds) :
    (assetAdded asset now expiresAt).isDetail = true := rfl

@[simp] theorem isDetail_assetRemoved : (assetRemoved asset).isDetail = true := rfl

@[simp] theorem isDetail_ttlApplied (ttl : Seconds) : (ttlApplied asset ttl).isDetail = true := rfl

@[simp] theorem isDetail_timeApplied (lastSeen expiresAt : Seconds) :
    (timeApplied asset lastSeen expiresAt).isDetail = true := rfl

@[simp] theorem isDetail_expirySought (now : Seconds) : (expirySought now).isDetail = true := rfl

@[simp] theorem isDetail_futureMetric (quantity : String) (time now : Seconds) :
    (futureMetric asset quantity time now).isDetail = false := rfl

end Diagnostic

/-- The reports without those that only a verbose cache makes. -/
def essentials (log : List Diagnostic) : List Diagnostic :=
  log.filter fun diagnostic => !diagnostic.isDetail

@[simp] theorem essentials_nil : essentials [] = [] := rfl

@[simp] theorem essentials_append (log more : List Diagnostic) :
    essentials (log ++ more) = essentials log ++ essentials more :=
  List.filter_append _ _

theorem essentials_eq_nil {log : List Diagnostic}
    (h : ∀ diagnostic ∈ log, diagnostic.isDetail = true) : essentials log = [] := by
  apply List.filter_eq_nil_iff.2
  intro diagnostic member
  simp [h diagnostic member]

theorem essentials_eq_self {log : List Diagnostic}
    (h : ∀ diagnostic ∈ log, diagnostic.isDetail = false) : essentials log = log := by
  apply List.filter_eq_self.2
  intro diagnostic member
  simp [h diagnostic member]

@[simp] theorem essentials_cons (diagnostic : Diagnostic) (log : List Diagnostic) :
    essentials (diagnostic :: log) =
      if diagnostic.isDetail then essentials log else diagnostic :: essentials log := by
  cases detail : diagnostic.isDetail <;> simp [essentials, detail]

@[simp] theorem essentials_ite (condition : Prop) [Decidable condition]
    (log more : List Diagnostic) :
    essentials (if condition then log else more) =
      if condition then essentials log else essentials more :=
  apply_ite essentials _ _ _

namespace Cache

/-! ## The essential reports of each operation -/

theorem essentials_log_delete (cache : Cache) (name : AssetName) :
    essentials (cache.delete name).log = [] := by
  simp [delete]

theorem essentials_log_findExpired (cache : Cache) (now : Seconds) :
    essentials (cache.findExpired now).log = [] := by
  have checked (entries : List (AssetName × Record)) :
      essentials (entries.map fun entry =>
        .assetChecked entry.1 entry.2.ttl entry.2.expiration) = [] := by
    apply essentials_eq_nil
    intro diagnostic member
    obtain ⟨entry, -, rfl⟩ := List.mem_map.1 member
    rfl
  cases loud : cache.verbose <;> simp [findExpired, loud, checked]

theorem essentials_log_putMetric (cache : Cache) (now : Seconds) (metric : Metric) :
    essentials (cache.putMetric now metric).log =
      if cache.contains metric.source = true ∧ now < metric.timeOr now then
        [.futureMetric metric.source metric.quantity (metric.timeOr now) now]
      else [] := by
  rw [contains_eq]
  unfold putMetric
  cases found : cache.record? metric.source with
  | none => rfl
  | some record =>
    by_cases ahead : now < metric.timeOr now <;> simp [ahead]

theorem essentials_log_putNotice (cache : Cache) (now : Seconds) (notice : AssetNotice) :
    essentials (cache.putNotice now notice).log = [] := by
  unfold putNotice
  by_cases removal : notice.isRemoval
  · simp [removal, essentials_log_delete]
  · by_cases kind : notice.isTrackedKind
    · by_cases known : cache.contains notice.name <;>
        simp [removal, kind, known]
    · simp [removal, kind]

/-! ## Muted caches -/

/-- The cache as it would be if it were not verbose. -/
def muted (cache : Cache) : Cache := cache.setVerbose false

theorem value_put_muted (cache : Cache) (now : Seconds) (event : Event) :
    (cache.muted.put now event).value =
      ((cache.put now event).value.1.muted, (cache.put now event).value.2) := by
  cases event with
  | metric metric =>
    have same : cache.muted.record? metric.source = cache.record? metric.source := rfl
    rw [put, put, value_putMetric, value_putMetric, same]
    cases cache.record? metric.source <;> rfl
  | asset notice =>
    have same : cache.muted.contains notice.name = cache.contains notice.name := rfl
    rw [put, put, value_putNotice, value_putNotice, same]
    repeat' split
    all_goals rfl

theorem essentials_log_put_muted (cache : Cache) (now : Seconds) (event : Event) :
    essentials (cache.muted.put now event).log = essentials (cache.put now event).log := by
  cases event with
  | metric metric =>
    rw [put, put, essentials_log_putMetric, essentials_log_putMetric]
    rfl
  | asset notice => rw [put, put, essentials_log_putNotice, essentials_log_putNotice]

/-! ## One command -/

/-- The scene as it would be if its cache were not verbose. -/
def Scene.muted (scene : Scene) : Scene := { scene with cache := scene.cache.muted }

/-- A muted scene gives the same answer, and but for verbosity it leads to the same scene. -/
theorem Scene.value_take_muted (scene : Scene) (command : Command) :
    (scene.muted.take command).value.1.muted = (scene.take command).value.1.muted ∧
      (scene.muted.take command).value.2 = (scene.take command).value.2 := by
  cases command with
  | put event =>
    have put := scene.cache.value_put_muted scene.now event
    simp only [take, Scene.muted, now, Logged.value_bind, Logged.value_pure]
    rw [now] at put
    rw [put]
    exact ⟨rfl, rfl⟩
  | _ => exact ⟨rfl, rfl⟩

theorem Scene.essentials_log_take_muted (scene : Scene) (command : Command) :
    essentials (scene.muted.take command).log = essentials (scene.take command).log := by
  cases command with
  | put event =>
    have put := scene.cache.essentials_log_put_muted scene.now event
    simp only [take, Logged.log_bind, Logged.log_pure, List.append_nil]
    exact put
  | delete name =>
    simp only [take, Logged.log_bind, Logged.log_pure, List.append_nil, essentials_log_delete]
  | _ => rfl

end Cache

end AssetWatch
