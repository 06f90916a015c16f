import ClusterBilling.Query.Basic
import ClusterBilling.Query.Template

/-!
The queries for costs. Cumulative ones take a sample every minute and divide by 60, so that a value
is the cost of the minutes that were seen; the others give hourly prices times 730.
-/
namespace ClusterBilling

/-- The number of minutes in which nodes were seen. -/
def dataCountTemplate : String :=
  "max(sum(count_over_time(kube_node_status_capacity_cpu_cores[{window}:1m]{offset})) by "
    ++ "(node, cluster_id))"

/-- Cumulative costs of graphics processors. -/
def gpuCostTemplate : String :=
  "sum(\n"
    ++ "    sum_over_time(node_gpu_hourly_cost[{window}:1m]{offset}) / 60\n"
    ++ ") by (cluster_id)"

/-- Cumulative costs of processors. -/
def cpuCostTemplate : String :=
  "sum(\n"
    ++ "    sum(sum_over_time(kube_node_status_capacity_cpu_cores[{window}:1m]{offset})) by ("
    ++ "node, cluster_id) *\n"
    ++ "    avg(avg_over_time(node_cpu_hourly_cost[{window}:1m]{offset})) by (node, "
    ++ "cluster_id) / 60\n"
    ++ ") by (cluster_id)"

/-- Cumulative costs of memory. -/
def ramCostTemplate : String :=
  "sum(\n"
    ++ "    sum(sum_over_time(kube_node_status_capacity_memory_bytes[{window}:1m]{offset}) / "
    ++ "1024 / 1024 / 1024) by (node, cluster_id) *\n"
    ++ "    avg(avg_over_time(node_ram_hourly_cost[{window}:1m]{offset})) by (node, "
    ++ "cluster_id) / 60\n"
    ++ ") by (cluster_id)"

/-- Cumulative costs of volumes. -/
def storageCostTemplate : String :=
  "sum(\n"
    ++ "    sum(sum_over_time(kube_persistentvolume_capacity_bytes[{window}:1m]{offset})) by ("
    ++ "persistentvolume, cluster_id) / 1024 / 1024 / 1024 *\n"
    ++ "    avg(avg_over_time(pv_hourly_cost[{window}:1m]{offset})) by (persistentvolume, "
    ++ "cluster_id) / 60\n"
    ++ ") by (cluster_id){local_storage}"

/-- Shares of processor time by mode. -/
def cpuModeTemplate : String :=
  "sum(rate(node_cpu_seconds_total[{window}])) by (mode) / scalar(sum(rate("
    ++ "node_cpu_seconds_total[{window}])))"

/-- The share of memory that the system uses. -/
def ramSystemTemplate : String :=
  "sum(avg_over_time(container_memory_usage_bytes"
    ++ "\x7b\x7bcontainer_name!=\"\",namespace=\"kube-system\"\x7d\x7d[{window}]))\n"
    ++ "/ sum(avg(kube_node_status_capacity_memory_bytes) by (node))"

/-- The share of memory that nothing else accounts for. -/
def ramOtherTemplate : String :=
  "avg_over_time(kubecost_cluster_memory_working_set_bytes[{window}])\n"
    ++ "/ sum(kube_node_status_capacity_memory_bytes)"

/-- Monthly rates of processors of both kinds. -/
def cpuRateTemplate : String :=
  "sum(\n"
    ++ "    avg(avg_over_time(kube_node_status_capacity_cpu_cores[{window}] {offset})) by ("
    ++ "node, cluster_id) * avg(avg_over_time(node_cpu_hourly_cost[{window}] {offset})) by ("
    ++ "node, cluster_id) * 730 +\n"
    ++ "    avg(avg_over_time(node_gpu_hourly_cost[{window}] {offset})) by (node, cluster_id) "
    ++ "* 730\n"
    ++ ") by (cluster_id)"

/-- Monthly rates of memory. -/
def memoryRateTemplate : String :=
  "sum(\n"
    ++ "    avg(avg_over_time(kube_node_status_capacity_memory_bytes[{window}] {offset})) by ("
    ++ "node, cluster_id) / 1024 / 1024 / 1024 * avg(avg_over_time("
    ++ "node_ram_hourly_cost[{window}] {offset})) by (node, cluster_id) * 730\n"
    ++ ") by (cluster_id)"

/-- Monthly rates of volumes. -/
def storageRateTemplate : String :=
  "sum(\n"
    ++ "    avg(avg_over_time(pv_hourly_cost[{window}] {offset})) by (persistentvolume, "
    ++ "cluster_id) * 730\n"
    ++ "    * avg(avg_over_time(kube_persistentvolume_capacity_bytes[{window}] {offset})) by ("
    ++ "persistentvolume, cluster_id) / 1024 / 1024 / 1024\n"
    ++ ") by (cluster_id){local_storage}"

/-- Monthly rates of nodes and volumes together. -/
def totalRateTemplate : String :=
  "sum(avg(node_total_hourly_cost) by (node, cluster_id)) * 730 +\n"
    ++ "sum(\n"
    ++ "    avg(avg_over_time(pv_hourly_cost[1h])) by (persistentvolume, cluster_id) * 730\n"
    ++ "    * avg(avg_over_time(kube_persistentvolume_capacity_bytes[1h])) by ("
    ++ "persistentvolume, cluster_id) / 1024 / 1024 / 1024\n"
    ++ ") by (cluster_id){local_storage}"

/-- A query text under its name in a batch. -/
abbrev NamedText := Text × Text

/-- The eight queries for the bills of a window, in the order in which they are sent. -/
def billQueries (window offset localStorage : Text) : List NamedText :=
  let filling := windowFilling window (offsetClause offset) (storageTerm localStorage)
  [("data_count", fill dataCountTemplate filling),
    ("total_gpu", fill gpuCostTemplate filling),
    ("total_cpu", fill cpuCostTemplate filling),
    ("total_ram", fill ramCostTemplate filling),
    ("total_storage", fill storageCostTemplate filling),
    ("cpu_mode_pct", fill cpuModeTemplate filling),
    ("ram_system_pct", fill ramSystemTemplate filling),
    ("ram_other_pct", fill ramOtherTemplate filling)]

/-- The queries for monthly rates, in the order in which they are sent, with or without the
overall total. -/
def rateQueries (window offset localStorage : Text) (withTotal : Bool) : List NamedText :=
  let filling := windowFilling window (Text.strip (offsetClause offset)) (storageTerm localStorage)
  let parts : List NamedText :=
    [("cluster_cores", fill cpuRateTemplate filling),
      ("cluster_ram", fill memoryRateTemplate filling),
      ("cluster_storage", fill storageRateTemplate filling)]
  let total : List NamedText := [("cluster_total", fill totalRateTemplate filling)]
  parts ++ (if withTotal then total else [])

end ClusterBilling
