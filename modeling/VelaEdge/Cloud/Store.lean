import Mathlib.Data.Prod.Lex
import VelaEdge.Base.Registry
import VelaEdge.Base.Selection
import VelaEdge.Core.Config

/-! The cloud's store: edges, products with their versions, the packages written for the edges
and the releases of those packages. -/
namespace VelaEdge.Cloud

open Base Core

inductive ReleaseStatus where
  | pending
  | applied
  | failed
  | superseded
deriving DecidableEq

/-- The release id is an arbitrary number: ids are random, only their order is visible. -/
structure ReleaseRecord where
  releaseId : Nat
  edgeId : String
  desiredVersion : String
  reportedVersion : Option String
  status : ReleaseStatus
deriving DecidableEq

structure EdgeNode where
  edgeId : String
  displayName : String
  site : Option String
  capabilities : List String
  projectId : Option String
  productId : Option String
  desiredProductVersion : Option String
  reportedProductVersion : Option String
deriving DecidableEq

structure Product where
  productId : String
  projectId : String
  latestVersion : Option String
deriving DecidableEq

inductive ProductVersionStatus where
  | draft
  | published
  | retired
deriving DecidableEq

structure ProductVersion where
  productId : String
  version : String
  status : ProductVersionStatus
  pointSetIds : List String
  devices : List DeviceInstance
  protocolConnections : List ProtocolConnection
  collectionTasks : List CollectionTask
  algorithms : List AlgorithmSpec
  dataConfigs : List DataConfig
  commandFlows : List CommandFlowConfig
  mqttUplinks : List MqttUplinkConfig
deriving DecidableEq

structure PointSetPoint where
  pointId : String
  semanticId : String
  address : Json
  valueType : TelemetryType
  access : PointAccess
  protocolOptions : Json
  readTransforms : List Json
  unit : Option String := none
  intervalMs : Nat := 1000
deriving DecidableEq

structure PointSet where
  pointSetId : String
  projectId : String
  points : List PointSetPoint
deriving DecidableEq

def packageKey (package : EdgeConfigPackage) : Lex (String × String) :=
  toLex (package.edgeId,package.version)

def productVersionKey (version : ProductVersion) : Lex (String × String) :=
  toLex (version.productId,version.version)

structure CloudControlStore where
  edgeNodes : Registry EdgeNode.edgeId
  configPackages : Registry packageKey
  releases : Registry ReleaseRecord.releaseId
  pointSets : Registry PointSet.pointSetId
  products : Registry Product.productId
  productVersions : Registry productVersionKey

variable (store : CloudControlStore)

namespace CloudControlStore

def empty : CloudControlStore where
  edgeNodes := .empty
  configPackages := .empty
  releases := .empty
  pointSets := .empty
  products := .empty
  productVersions := .empty

def registerEdge (node : EdgeNode) : CloudControlStore :=
  { store with edgeNodes := store.edgeNodes.insert node }

def upsertConfigPackage (package : EdgeConfigPackage) : CloudControlStore :=
  { store with configPackages := store.configPackages.insert package }

def configPackage (edgeId version : String) : Option EdgeConfigPackage :=
  store.configPackages.get (toLex (edgeId,version))

def latestConfigPackageForEdge (edgeId : String) : Option EdgeConfigPackage :=
  maxBy EdgeConfigPackage.version
    (store.configPackages.values.filter fun package => package.edgeId = edgeId)

def insertRelease (release : ReleaseRecord) : CloudControlStore :=
  { store with releases := store.releases.insert release }

def upsertPointSet (pointSet : PointSet) : CloudControlStore :=
  { store with pointSets := store.pointSets.insert pointSet }

def upsertProduct (product : Product) : CloudControlStore :=
  { store with products := store.products.insert product }

def product (productId : String) : Option Product :=
  store.products.get productId

def upsertProductVersion (version : ProductVersion) : CloudControlStore :=
  { store with productVersions := store.productVersions.insert version }

def productVersion (productId version : String) : Option ProductVersion :=
  store.productVersions.get (toLex (productId,version))

theorem productVersion_version {store : CloudControlStore} {name : String}
    {ver : ProductVersion} (h : store.productVersion prod name = some ver) :
    ver.version = name := by
  have hk := Registry.key_of_get h
  exact congrArg Prod.snd (toLex.injective hk)

end CloudControlStore

end VelaEdge.Cloud
