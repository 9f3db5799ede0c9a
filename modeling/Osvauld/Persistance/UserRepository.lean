import Osvauld.Persistance.RepositoryContext

namespace Osvauld.Persistance

open Osvauld.Core

/-! Users, their devices and the stored token key. -/

namespace UserRepo

def getUserById (userId : String) (ctx : RepositoryContext) :
    Except RepositoryError User :=
  firstOrNotFound (ctx.users.find? fun user => user.id = userId)

def getUserByDeviceId (deviceId : String) (ctx : RepositoryContext) :
    Except RepositoryError User :=
  match ctx.devices.find? fun device => device.id = deviceId with
  | none => .error .notFound
  | some device =>
      firstOrNotFound (ctx.users.find? fun user => user.id = device.userId)

def devicesOf (ctx : RepositoryContext) (userId : String) : List Device :=
  ctx.devices.filter fun device => device.userId = userId

def withDeviceIds (ctx : RepositoryContext) (users : List User) :
    List UserWithDeviceIds :=
  users.filterMap fun user =>
    let deviceIds := (devicesOf ctx user.id).map fun device => device.id
    if deviceIds.isEmpty then none else some { userId := user.id, deviceIds }

def getOtherUsersWithDeviceIds (ctx : RepositoryContext) :
    Except RepositoryError (List UserWithDeviceIds) :=
  .ok (withDeviceIds ctx (ctx.users.filter fun user => !user.owner))

def getUsersWithDeviceIdsByUserIds (userIds : List String)
    (ctx : RepositoryContext) : Except RepositoryError (List UserWithDeviceIds) :=
  .ok (withDeviceIds ctx (ctx.users.filter fun user => user.id ∈ userIds))

def getUsersWithDevicesByUserIds (userIds : List String)
    (ctx : RepositoryContext) : Except RepositoryError (List UserWithDevices) :=
  .ok ((ctx.users.filter fun user => user.id ∈ userIds).map fun user =>
    { user, devices := devicesOf ctx user.id })

def overwriteKnown (known received : User) : User :=
  { known with
    ucanPubKey := received.ucanPubKey
    ucanToken := received.ucanToken
    firstSync := received.firstSync
    ucanCid := received.ucanCid }

def upsertUser (user : User) (ctx : RepositoryContext) :
    Except Violation RepositoryContext :=
  if userExists ctx user.id then
    .ok { ctx with
      users := ctx.users.map fun known =>
        if known.id = user.id then overwriteKnown known user else known }
  else Table.users.insert .abort user ctx

def addUsersWithDevicesBulk (usersWithDevices : List UserWithDevices)
    (ctx : RepositoryContext) : Except RepositoryError RepositoryContext :=
  reportAs
    ("Failed to bulk add " ++ toString usersWithDevices.length ++
      " users with devices")
    (usersWithDevices.foldlM (fun ctx userWithDevices => do
      let ctx ← upsertUser userWithDevices.user ctx
      Table.devices.insertAll .doNothing userWithDevices.devices ctx) ctx)

end UserRepo

namespace DeviceRepo

def findById (deviceId : String) (ctx : RepositoryContext) :
    Except RepositoryError Device :=
  firstOrNotFound (ctx.devices.find? fun device => device.id = deviceId)

def getDevicesByUserId (userId : String) (ctx : RepositoryContext) :
    Except RepositoryError (List Device) :=
  .ok ((UserRepo.devicesOf ctx userId).mergeSort fun first second =>
    second.createdAt ≤ first.createdAt)

def getDeviceIdsByUserId (userId : String) (ctx : RepositoryContext) :
    Except RepositoryError (List String) :=
  .ok ((UserRepo.devicesOf ctx userId).map fun device => device.id)

def getDevicesByIds (deviceIds : List String) (ctx : RepositoryContext) :
    Except RepositoryError (List Device) :=
  .ok (ctx.devices.filter fun device => device.id ∈ deviceIds)

def saveMany (devices : List Device) (ctx : RepositoryContext) :
    Except RepositoryError RepositoryContext :=
  reportAs
    ("Failed to save " ++ toString devices.length ++
      " devices in bulk operation")
    (Table.devices.insertAll .doNothing devices ctx)

end DeviceRepo

namespace StoreRepo

def getUcanKey (ctx : RepositoryContext) : Except RepositoryError PgpText :=
  firstOrNotFound ctx.ucanKey

end StoreRepo

end Osvauld.Persistance
