/-
**The known features.**

Every feature with the figures that give its use away, in the order in which features are listed.

Main definitions:

* `ClusterReport.Feature.registry` — the features.
-/

import ClusterReport.Feature.Check

set_option relaxedAutoImplicit false
set_option autoImplicit false

namespace ClusterReport.Feature

/-- A check that some counter of a source is positive. -/
def counts (source : Source) (fields : List String) : FieldCheck :=
  ⟨source, fields, .greater, .int 0⟩

/-- A check that a setting of a source has a value. -/
def equals (source : Source) (field value : String) : FieldCheck :=
  ⟨source, [field], .equal, .text value⟩

/-- The features in the order in which they are listed. -/
def registry : List Feature := [
  ⟨"KVS", [
    counts .service ["stat_read_reqs", "stat_write_reqs"],
    counts .namespaces ["client_read_error", "client_read_success", "client_write_error",
      "client_write_success"]]⟩,
  ⟨"UDF", [
    counts .service ["udf_read_reqs", "udf_write_reqs"],
    counts .namespaces ["client_udf_complete", "client_udf_error"]]⟩,
  ⟨"Batch", [counts .service ["batch_initiate", "batch_index_initiate"]]⟩,
  ⟨"Scan", [
    counts .service ["tscan_initiate", "basic_scans_succeeded", "basic_scans_failed",
      "aggr_scans_succeeded", "aggr_scans_failed", "udf_bg_scans_succeeded",
      "udf_bg_scans_failed"],
    counts .namespaces ["scan_basic_complete", "scan_basic_error", "scan_aggr_complete",
      "scan_aggr_error", "scan_udf_bg_complete", "scan_udf_bg_error"]]⟩,
  ⟨"SIndex", [
    counts .service ["sindex-used-bytes-memory"],
    counts .namespaces ["memory_used_sindex_bytes"]]⟩,
  ⟨"Query", [
    counts .service ["query_reqs", "query_success"],
    counts .namespaces ["query_reqs", "query_success"]]⟩,
  ⟨"PIndex Query", [
    counts .namespaces ["pi_query_long_basic_complete", "pi_query_long_basic_error",
      "pi_query_short_basic_complete", "pi_query_short_basic_error", "pi_query_aggr_complete",
      "pi_query_aggr_error", "pi_query_udf_bg_complete", "pi_query_udf_bg_error",
      "pi_query_ops_bg_complete", "pi_query_ops_bg_error"]]⟩,
  ⟨"SIndex Query", [
    counts .namespaces ["si_query_long_basic_complete", "si_query_long_basic_error",
      "si_query_short_basic_complete", "si_query_short_basic_error", "si_query_aggr_complete",
      "si_query_aggr_error", "si_query_udf_bg_complete", "si_query_udf_bg_error",
      "si_query_ops_bg_complete", "si_query_ops_bg_error"]]⟩,
  ⟨"Aggregation", [
    counts .service ["query_aggr_success", "query_aggr_error", "query_aggr_abort", "query_agg"],
    counts .namespaces ["query_aggr_success", "query_aggr_error", "query_aggr_abort",
      "query_agg"]]⟩,
  ⟨"LDT", [
    counts .service ["sub-records", "ldt-writes", "ldt-reads", "ldt-deletes", "ldt_writes",
      "ldt_reads", "ldt_deletes", "sub_objects"],
    counts .namespaces ["ldt-writes", "ldt-reads", "ldt-deletes", "ldt_writes", "ldt_reads",
      "ldt_deletes"]]⟩,
  ⟨"XDR Source", [
    counts .service ["stat_read_reqs_xdr", "xdr_read_success", "xdr_read_error"],
    counts .targets ["success"]]⟩,
  ⟨"XDR Destination", [
    counts .service ["stat_write_reqs_xdr"],
    counts .namespaces ["xdr_write_success", "xdr_client_write_success"]]⟩,
  ⟨"Rack-aware", [counts .service ["self-group-id"], counts .namespaces ["rack-id"]]⟩,
  ⟨"Security", [
    equals .service "enable-security" "true",
    equals .security "enable-security" "true"]⟩,
  ⟨"TLS (Heartbeat)", [counts .service ["heartbeat.mesh-seed-address-port"]]⟩,
  ⟨"TLS (Fabric)", [counts .service ["fabric.tls-port"]]⟩,
  ⟨"TLS (Service)", [counts .service ["service.tls-port"]]⟩,
  ⟨"SC", [equals .namespaces "strong-consistency" "true"]⟩,
  ⟨"Index-on-device", [counts .namespaces ["index_flash_used_bytes"]]⟩,
  ⟨"Index-on-pmem", [equals .namespaces "index-type" "pmem"]⟩]

end ClusterReport.Feature
