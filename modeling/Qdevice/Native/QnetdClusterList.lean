import Qdevice.Native.QnetdInstance

/-! # The cluster list

`qnetd-cluster-list.c` on its own: clients are pointers, and what is read through them are their
name and their node id.  A caller keeps the pointer that `qnetd_cluster_list_add_client` returns
in `client->cluster` and gives it to `qnetd_cluster_list_del_client`. -/

namespace Qdevice.Qnetd

/-- The fields of a client that are read. -/
structure ClusterListClient where
  clusterName : List UInt8
  nodeId : UInt32

/-- `struct qnetd_cluster_list`, with `client->cluster` of every client. -/
structure QnetdClusterList where
  clusters : List ClusterEntry := []
  nextClusterId : ClusterId := 0
  cluster : ClientId → Option ClusterId := fun _ => none

variable (clients : ClientId → ClusterListClient)

/-- The loop of `qnetd_cluster_list_add_client`: insert before the first client with a higher
    node id, or at the end. -/
def qnetdClusterListInsert (id : ClientId) : List ClientId → List ClientId
  | [] => [id]
  | entry :: rest =>
    if (clients entry).nodeId > (clients id).nodeId then id :: entry :: rest
    else entry :: qnetdClusterListInsert id rest

/-- `qnetd_cluster_list_add_client`: the clusters afterwards, the next pointer and the pointer that
    is returned.  `alloc` is whether `malloc` succeeds. -/
def qnetdClusterListAddClient (alloc : Bool) (list : QnetdClusterList) (id : ClientId) :
    Option (List ClusterEntry × ClusterId × ClusterId) :=
  match qnetdClusterListFindByName list.clusters (clients id).clusterName with
  | some cluster =>
    some (list.clusters.map fun entry =>
        if entry.id = cluster.id then
          { entry with clientList := qnetdClusterListInsert clients id entry.clientList }
        else entry,
      list.nextClusterId, cluster.id)
  | none =>
    if alloc then
      let cluster : ClusterEntry :=
        { id := list.nextClusterId
          clusterName := (clients id).clusterName
          clientList := qnetdClusterListInsert clients id [] }
      some (list.clusters ++ [cluster], list.nextClusterId + 1, cluster.id)
    else none

/-- A call of one of the two functions. -/
inductive ClusterListOp where
  | add (id : ClientId) (alloc : Bool)
  | del (id : ClientId)

/-- The client of a call. -/
def ClusterListOp.client : ClusterListOp → ClientId
  | .add id _ => id
  | .del id => id

/-- A call with its caller.  A client is added when it is in no cluster, and removed when it is in
    one. -/
def clusterListStep (list : QnetdClusterList) : ClusterListOp → Option QnetdClusterList
  | .add id alloc =>
    match list.cluster id with
    | some _ => none
    | none =>
      match qnetdClusterListAddClient clients alloc list id with
      | none => some list
      | some (clusters, nextClusterId, cluster) => some
          { clusters, nextClusterId, cluster := Function.update list.cluster id (some cluster) }
  | .del id =>
    match list.cluster id with
    | none => none
    | some cluster => some { list with
        clusters := qnetdClusterListDelClient list.clusters (some cluster) id
        cluster := Function.update list.cluster id none }

end Qdevice.Qnetd
