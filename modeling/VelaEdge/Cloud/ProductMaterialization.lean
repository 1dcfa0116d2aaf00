import VelaEdge.Base.Assignment
import VelaEdge.Cloud.VersionRequest

/-! The package of an edge is made from the point sets of a product version and from the routes its
data configs give to their points. -/
namespace VelaEdge.Cloud.ProductMaterialization

open Base Core VelaEdge.Runtime Runtime.AppliedConfig List
open Cloud.ConfigValidator

/-! ## Routes -/

def route (config : DataConfig) : String × String := (config.deviceId,config.protocolConnectionId)

def routeEntries (configs : List DataConfig) : List (String × (String × String)) :=
  configs.flatMap fun config => config.points.map fun point => (point.pointId,route config)

def routeConflict (pointId : String) : ApiError :=
  ⟨.unprocessableEntity,s!"point {pointId} is assigned to multiple device/protocol routes"⟩

private theorem addRoute_eq_assign (target : String × String) (routes : PointRoutes)
    (point : DataConfigPoint) :
    addRoute target routes point = assign routeConflict routes (point.pointId,target) := by
  unfold addRoute assign
  cases routes.get point.pointId with
  | none => rfl
  | some old => rfl

private theorem addRoutes_eq_assign (routes : PointRoutes) (cfg : DataConfig) :
    addRoutes routes cfg = (cfg.points.map fun point =>
      (point.pointId,route cfg)).foldlM (assign routeConflict) routes := by
  unfold addRoutes
  rw [foldlM_map]
  congr 1
  funext next point
  exact addRoute_eq_assign _ next point

theorem foldlM_addRoutes (cfgs : List DataConfig) (routes : PointRoutes) :
    cfgs.foldlM addRoutes routes = (routeEntries cfgs).foldlM (assign routeConflict) routes := by
  induction cfgs generalizing routes with
  | nil => rfl
  | cons cfg cfgs ih =>
    rw [foldlM_cons,addRoutes_eq_assign,routeEntries,flatMap_cons,foldlM_append]
    congr 1
    funext next
    exact ih next

@[simp] theorem mem_routeEntries : (pid,target) ∈ routeEntries cfgs ↔
      ∃ cfg ∈ cfgs, (∃ point ∈ cfg.points, point.pointId = pid) ∧ route cfg = target := by
  simp only [routeEntries,mem_flatMap,mem_map,Prod.mk.injEq]
  constructor
  · rintro ⟨cfg,hc,point,hp,hid,ht⟩
    exact ⟨cfg,hc,⟨point,hp,hid⟩,ht⟩
  · rintro ⟨cfg,hc,⟨point,hp,hid⟩,ht⟩
    exact ⟨cfg,hc,point,hp,hid,ht⟩

/-- The route that the first data config with the point gives it. -/
def assignedRoute (configs : List DataConfig) (pointId : String) : Option (String × String) :=
  (configs.find? fun config => config.points.any fun point => point.pointId = pointId).map route

theorem mem_routeEntries_of_assigned (h : assignedRoute cfgs pid = some target) :
    (pid,target) ∈ routeEntries cfgs := by
  obtain ⟨cfg,hf,ht⟩ := Option.map_eq_some_iff.mp h
  have hh := List.find?_some hf
  simp only [any_eq_true,decide_eq_true_eq] at hh
  exact mem_routeEntries.mpr ⟨cfg,mem_of_find?_eq_some hf,hh,ht⟩

theorem exists_assignedRoute (h : (pid,target) ∈ routeEntries cfgs) :
    ∃ found, assignedRoute cfgs pid = some found := by
  obtain ⟨cfg,hc,hh,-⟩ := mem_routeEntries.mp h
  have hs : (cfgs.find? fun cfg => cfg.points.any fun point =>
      point.pointId = pid).isSome := by
    rw [List.find?_isSome]
    refine ⟨cfg,hc,?_⟩
    simp only [any_eq_true,decide_eq_true_eq]
    exact hh
  obtain ⟨first,hf⟩ := Option.isSome_iff_exists.mp hs
  exact ⟨route first,by rw [assignedRoute,hf,Option.map_some]⟩

variable {routes : PointRoutes}

theorem get_routes {cfgs : List DataConfig} (h : cfgs.foldlM addRoutes .empty = .ok routes)
    (pid : String) :
    routes.get pid = assignedRoute cfgs pid := by
  rw [foldlM_addRoutes] at h
  have hc : Collects routes (routeEntries cfgs) := Collects.empty.foldlM h
  cases ha : assignedRoute cfgs pid with
  | some target => exact (hc pid target).mpr (mem_routeEntries_of_assigned ha)
  | none =>
    cases hg : routes.get pid with
    | none => rfl
    | some target =>
      obtain ⟨found,hf⟩ := exists_assignedRoute ((hc pid target).mp hg)
      rw [ha] at hf
      cases hf

/-! ## Mappings -/

variable (version : ProductVersion)

/-- Where a point goes that no data config has. -/
def defaultRoute : String × String :=
  (((version.dataConfigs.head?.map DataConfig.deviceId).or
      (version.devices.head?.map DeviceInstance.deviceId)).getD "device-1",
    ((version.dataConfigs.head?.map DataConfig.protocolConnectionId).or
      (version.protocolConnections.head?.map ProtocolConnection.connectionId)).getD "")

def routeOf (pointId : String) : String × String :=
  (assignedRoute version.dataConfigs pointId).getD (defaultRoute version)

def storedPoints (store : CloudControlStore) (version : ProductVersion) : List PointSetPoint :=
  version.pointSetIds.flatMap fun pointSetId =>
    ((store.pointSets.get pointSetId).map PointSet.points).getD []

def placed (point : PointSetPoint) : TelemetryPointMapping :=
  pointMapping .empty (routeOf version point.pointId) point

def materializedMappings (store : CloudControlStore) (version : ProductVersion) :
    List TelemetryPointMapping :=
  (storedPoints store version).map (placed version)

variable {ver : ProductVersion}

theorem pointMapping_eq_placed (hr : ver.dataConfigs.foldlM addRoutes .empty = .ok routes)
    (ht : target = defaultRoute ver) (point : PointSetPoint) :
    pointMapping routes target point = placed ver point := by
  unfold placed pointMapping
  rw [get_routes hr,ht,OrderedMap.get_empty,Option.getD_none]
  rfl

/-- What a version needs so that its points can be mapped at all. -/
structure Mappable (store : CloudControlStore) (version : ProductVersion) : Prop where
  connected : version.dataConfigs ≠ [] ∨ version.protocolConnections ≠ []
  routed : OneValued (routeEntries version.dataConfigs)
  setsStored : ∀ pointSetId ∈ version.pointSetIds, (store.pointSets.get pointSetId).isSome

theorem defaultConnection_isSome : ((ver.dataConfigs.head?.map DataConfig.protocolConnectionId).or
      (ver.protocolConnections.head?.map ProtocolConnection.connectionId)).isSome ↔
      ver.dataConfigs ≠ [] ∨ ver.protocolConnections ≠ [] := by
  cases ver.dataConfigs with
  | nil => simp
  | cons cfg cfgs => simp

theorem flatten_placed (store : CloudControlStore) (ver : ProductVersion) :
    (ver.pointSetIds.map fun sid =>
      (((store.pointSets.get sid).map PointSet.points).getD []).map
        (placed ver)).flatten = materializedMappings store ver := by
  rw [materializedMappings,storedPoints,map_flatMap,flatMap_def]

variable {store : CloudControlStore}

private theorem mapM_pointSets {missing : ApiError}
    (hs : ∀ sid ∈ ver.pointSetIds, (store.pointSets.get sid).isSome)
    (hr : ver.dataConfigs.foldlM addRoutes .empty = .ok routes) (ht : target = defaultRoute ver) :
    (ver.pointSetIds.mapM fun sid => do
      let pointSet ← context (store.pointSets.get sid) missing
      pure (pointSet.points.map (pointMapping routes target))) =
      .ok (ver.pointSetIds.map fun sid =>
        (((store.pointSets.get sid).map PointSet.points).getD []).map (placed ver)) := by
  apply mapM_eq_map
  intro sid hm
  obtain ⟨pointSet,hg⟩ := Option.isSome_iff_exists.mp (hs sid hm)
  rw [hg,context_some,ok_bind,Option.map_some,Option.getD_some]
  congr 1
  apply map_congr_left
  intro point _
  exact pointMapping_eq_placed hr ht point

theorem target_eq_default (h : (ver.dataConfigs.head?.map DataConfig.protocolConnectionId).or
      (ver.protocolConnections.head?.map ProtocolConnection.connectionId) = some conn) :
    (((ver.dataConfigs.head?.map DataConfig.deviceId).or
      (ver.devices.head?.map DeviceInstance.deviceId)).getD "device-1",conn) =
        defaultRoute ver := by
  rw [defaultRoute,h,Option.getD_some]

@[simp] theorem materialize_eq_ok : materializeProductPointMappings store ver = .ok mappings ↔
      Mappable store ver ∧ mappings = materializedMappings store ver := by
  simp only [materializeProductPointMappings,bind_eq_ok,context_eq_ok]
  constructor
  · rintro ⟨conn,hc,routes,hr,found,hf,hm⟩
    have hs : ∀ sid ∈ ver.pointSetIds, (store.pointSets.get sid).isSome := by
      intro sid hme
      obtain ⟨points,hp⟩ := ok_of_mapM_eq_ok hf hme
      obtain ⟨pointSet,hg,-⟩ := bind_eq_ok.mp hp
      rw [context_eq_ok.mp hg]
      rfl
    rw [mapM_pointSets hs hr (target_eq_default hc)] at hf
    cases hf
    cases hm
    refine ⟨⟨defaultConnection_isSome.mp (by rw [hc]; rfl),?_,hs⟩,?_⟩
    · rw [foldlM_addRoutes] at hr
      exact exists_assigned_iff.mp ⟨routes,hr⟩
    · exact flatten_placed store ver
  · rintro ⟨h,rfl⟩
    obtain ⟨conn,hc⟩ := Option.isSome_iff_exists.mp (defaultConnection_isSome.mpr h.connected)
    obtain ⟨routes,hr⟩ := exists_assigned_iff.mpr h.routed
    rw [← foldlM_addRoutes] at hr
    exact ⟨conn,hc,routes,hr,_,mapM_pointSets h.setsStored hr (target_eq_default hc),
      congrArg Except.ok (flatten_placed store ver)⟩

/-- The package of an edge, with its mappings in closed form. -/
def materialized (store : CloudControlStore) (edgeId : String) (version : ProductVersion) :
    EdgeConfigPackage :=
  configPackage edgeId version (materializedMappings store version)

@[simp] theorem materializePackage_eq_ok :
    materializeProductConfigPackage store edge ver = .ok pkg ↔
      Mappable store ver ∧ pkg = materialized store edge ver := by
  simp only [materializeProductConfigPackage,bind_eq_ok,materialize_eq_ok]
  constructor
  · rintro ⟨mappings,⟨h,rfl⟩,hp⟩
    cases hp
    exact ⟨h,rfl⟩
  · rintro ⟨h,rfl⟩
    exact ⟨_,⟨h,rfl⟩,rfl⟩

end VelaEdge.Cloud.ProductMaterialization
