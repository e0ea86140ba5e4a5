/-!
# The package of components

The modules that components are taken from: the classes, functions and values that each defines, and
the names that it takes from other modules. Every name is defined once.
-/

namespace CatalogReplication.Component

/-- What an import path leads to. -/
inductive Importable where
  /-- A module, by the names on the way to it. -/
  | module (path : List String)
  /-- Something else, by its module and the names inside, as far as it knows them: a value knows
  neither, an object only the module of its class. -/
  | definition (path names : List String)
deriving DecidableEq, Repr

/-- A class, with what it defines itself; the rest comes from its parent. -/
structure ClassEntry where
  name : String
  parent : Option String := none
  methods : List String := []
  /-- What its objects hold. -/
  fields : List String := []
  /-- Values, and methods that are called when they are looked at. -/
  values : List String := []
  /-- The objects that it has, if they are fixed. -/
  cases : List String := []
  /-- Methods whose answers are kept. -/
  kept : List String := []
  /-- What is from outside of the package. -/
  others : List (String × Importable) := []

/-- A module, by its path below the root of the package. -/
structure ModuleEntry where
  path : List String
  classes : List ClassEntry := []
  functions : List String := []
  values : List String := []
  /-- What is from outside of the package. -/
  others : List (String × Importable) := []
  /-- The names that are defined in other modules. -/
  taken : List String := []

/-- The names on the way to the root of the package. -/
def packageRoot : List String := ["pydiverse", "replication"]

/-- The modules of the package. -/
def modules : List ModuleEntry :=
  [ { path := []
      values := ["__all__"]
      taken := ["Cluster", "LockKind", "LockRequirement", "LockSet", "MetadataAction",
        "ObjectSpec", "PartitionReplicationTask", "ReplicationConfig", "ReplicationTask",
        "RunOutcome", "RunStatus", "TableReplicationTask", "run_with_locks", "ConfigContext"] },
    { path := ["backend"]
      values := ["__all__"]
      taken := ["BaseCatalog", "DictCatalog", "SQLCatalog", "DirectoryReconciler",
        "FsspecDirectoryReconciler", "BaseLockManager", "LockState", "NoLockManager",
        "ThreadLockManager", "ZooKeeperLockManager"] },
    { path := ["backend", "catalog"]
      values := ["__all__"]
      taken := ["BaseCatalog", "DictCatalog", "SQLCatalog"] },
    { path := ["backend", "catalog", "base"]
      classes := [
        { name := "BaseCatalog"
          parent := some "Disposable"
          methods := ["__init__", "get_database", "create_database_if_absent", "get_table",
            "create_table", "alter_table", "get_partition", "add_partition", "alter_partition",
            "list_partition_names", "_stamp"] }]
      taken := ["DatabaseMetadata", "PartitionMetadata", "TableMetadata", "ObjectSpec",
        "Disposable"] },
    { path := ["backend", "catalog", "dict"]
      classes := [
        { name := "DictCatalog"
          parent := some "BaseCatalog"
          methods := ["__init__", "get_database", "create_database_if_absent", "get_table",
            "create_table", "alter_table", "get_partition", "add_partition", "alter_partition",
            "list_partition_names"] }]
      taken := ["BaseCatalog", "DatabaseMetadata", "PartitionMetadata", "TableMetadata",
        "ObjectSpec", "CatalogError"] },
    { path := ["backend", "catalog", "sql"]
      classes := [
        { name := "SQLCatalog"
          parent := some "BaseCatalog"
          methods := ["_init_conf_", "__init__", "_pk", "_create_tables", "dispose",
            "get_database", "create_database_if_absent", "get_table", "create_table",
            "alter_table", "get_partition", "add_partition", "alter_partition",
            "list_partition_names"] }]
      functions := ["_wrap_sql_errors"]
      taken := ["BaseCatalog", "DatabaseMetadata", "PartitionMetadata", "TableMetadata",
        "ObjectSpec", "CatalogError"] },
    { path := ["backend", "directory"]
      values := ["__all__"]
      taken := ["DirectoryReconciler", "FsspecDirectoryReconciler"] },
    { path := ["backend", "directory", "base"]
      classes := [
        { name := "DirectoryReconciler"
          methods := ["exists", "equal", "copy", "move"] }] },
    { path := ["backend", "directory", "filesystem"]
      classes := [
        { name := "FsspecDirectoryReconciler"
          parent := some "DirectoryReconciler"
          methods := ["__init__", "_fs", "_listing", "exists", "equal", "copy", "move",
            "_tmp_path", "_replace_directory"] }]
      taken := ["DirectoryReconciler", "DirectoryCopyError"] },
    { path := ["backend", "lock"]
      values := ["__all__"]
      taken := ["BaseLockManager", "LockState", "NoLockManager", "ThreadLockManager",
        "ZooKeeperLockManager"] },
    { path := ["backend", "lock", "base"]
      classes := [
        { name := "LockState"
          cases := ["UNLOCKED", "LOCKED", "UNCERTAIN", "INVALID"] },
        { name := "BaseLockManager"
          parent := some "Disposable"
          methods := ["__init__", "__call__", "hold", "dispose", "acquire", "release",
            "release_all", "add_lock_state_listener", "remove_lock_state_listener",
            "set_lock_state", "get_lock_state"] }]
      others := [("Lockable", .definition ["typing"] ["Union"]),
        ("LockStateListener", .definition ["typing"] ["Callable"])]
      taken := ["LockRequirement", "LockSet", "Disposable"] },
    { path := ["backend", "lock", "nolock"]
      classes := [
        { name := "NoLockManager"
          parent := some "BaseLockManager"
          methods := ["acquire", "release"] },
        { name := "ThreadLockManager"
          parent := some "BaseLockManager"
          methods := ["_init_conf_", "__init__", "acquire", "_acquire_exclusive", "release"]
          values := ["_shared_holders", "_exclusive_holders", "_exclusive_waiting"]
          others := [("_condition", .definition ["threading"] [])] }]
      taken := ["BaseLockManager", "LockState", "LockKind", "LockRequirement", "LockError"] },
    { path := ["backend", "lock", "zookeeper"]
      classes := [
        { name := "ZooKeeperLockManager"
          parent := some "BaseLockManager"
          methods := ["_init_conf_", "__init__", "_ZooKeeperLockManager__atexit", "dispose",
            "acquire", "release", "lock_path", "_lock_listener"] }]
      taken := ["BaseLockManager", "LockState", "LockKind", "LockRequirement", "DisposedError",
        "LockError", "lock_node_name", "normalize_name", "requires"] },
    { path := ["context"]
      values := ["__all__"]
      taken := ["BaseContext", "ConfigContext", "EventKind", "MultiTraceHook", "PrintTraceHook",
        "RecordingTraceHook", "TraceEvent", "TraceHook"] },
    { path := ["context", "context"]
      classes := [
        { name := "BaseContext"
          methods := ["__enter__", "__exit__", "_close", "get"]
          values := ["_thread_state", "_instance_state"]
          others := [("_lock", .definition ["_thread"] [])] },
        { name := "ConfigContext"
          parent := some "BaseContext"
          methods := ["_load", "_load_cluster", "create_lock_manager", "_task_kwargs",
            "partition_task", "table_task", "task_for", "_close", "__init__", "__repr__",
            "__eq__", "__ne__", "__hash__"]
          values := ["_context_var"]
          kept := ["source_cluster", "destination_cluster", "directory_reconciler",
            "destination_builder", "conflict_policy", "trace_hook"] }]
      functions := ["_as_spec"]
      others := [("T", .definition ["pydiverse", "replication", "context", "context"] [])]
      taken := ["Cluster", "ObjectSpec", "ConfigError", "load_object"] },
    { path := ["context", "trace_hook"]
      classes := [
        { name := "EventKind"
          methods := ["__str__"]
          cases := ["SOURCE_MISSING", "TABLE_CASCADE", "TABLE_CASCADE_FAILED",
            "DESTINATION_EXISTS", "DATA_LOCATION_SHARED", "STAGED_DATA_MOVED",
            "STAGED_DATA_MISMATCH", "DATA_UP_TO_DATE", "DATA_COPY_DISALLOWED",
            "SOURCE_PATH_MISSING", "DATA_COPIED", "DATA_COPY_FAILED", "DATABASE_CREATED",
            "METADATA_CREATED", "METADATA_ALTERED", "METADATA_UNCHANGED", "TASK_COMPLETE"] },
        { name := "TraceEvent"
          methods := ["__init__", "__repr__", "__eq__", "__ne__", "__hash__"]
          fields := ["kind", "spec", "details"] },
        { name := "TraceHook"
          methods := ["event"] },
        { name := "PrintTraceHook"
          parent := some "TraceHook"
          methods := ["__init__", "event"] },
        { name := "RecordingTraceHook"
          parent := some "TraceHook"
          methods := ["__init__", "event", "kinds", "of_kind", "clear"] },
        { name := "MultiTraceHook"
          parent := some "TraceHook"
          methods := ["_init_conf_", "__init__", "event"] }]
      values := ["_WARNING_EVENTS", "_INFO_EVENTS"]
      taken := ["ConfigError", "load_object"] },
    { path := ["core"]
      taken := ["ObjectSpec", "RunOutcome", "RunStatus", "LockKind", "LockRequirement", "LockSet",
        "required_locks", "Column", "DatabaseMetadata", "TableMetadata", "PartitionMetadata",
        "strip_non_comparables", "schemas_match", "MetadataAction", "decide_action", "Cluster",
        "DestinationBuilder", "DefaultDestinationBuilder", "ConflictPolicy",
        "LoggingConflictPolicy", "RaisingConflictPolicy", "ReplicationTask", "run_with_locks",
        "TableReplicationTask", "PartitionReplicationTask", "ReplicationConfig"] },
    { path := ["core", "actions"]
      classes := [
        { name := "MetadataAction"
          cases := ["CREATE", "ALTER", "NOOP"] }]
      functions := ["decide_action"]
      taken := ["CatalogRecord", "strip_non_comparables"] },
    { path := ["core", "cluster"]
      classes := [
        { name := "Cluster"
          methods := ["__str__", "__init__", "__repr__"]
          fields := ["name", "catalog", "fs_root"] }] },
    { path := ["core", "config"]
      classes := [
        { name := "cached_class_property"
          methods := ["__init__", "__get__"] },
        { name := "ReplicationConfig"
          methods := ["__init__", "get", "_ReplicationConfig__get_merged_config_dict"]
          values := ["name", "instance_names"] }]
      functions := ["find_config", "expand_environment_variables"]
      values := ["_DEFAULTS"]
      taken := ["ConfigError", "deep_merge"] },
    { path := ["core", "data"]
      classes := [
        { name := "DataReconciliation"
          methods := ["__init__", "__repr__", "__eq__", "__ne__", "__hash__"]
          fields := ["bytes_copied", "outcome"] }]
      functions := ["staged_path", "reconcile_data"]
      taken := ["DirectoryReconciler", "EventKind", "TraceEvent", "TraceHook", "ObjectSpec",
        "RunOutcome", "DirectoryCopyError"] },
    { path := ["core", "locks"]
      classes := [
        { name := "LockKind"
          cases := ["SHARED", "EXCLUSIVE"] },
        { name := "LockRequirement"
          methods := ["shared", "exclusive", "__str__", "__init__", "__repr__", "__eq__",
            "__ne__", "__hash__"]
          fields := ["kind", "resource_key"] },
        { name := "LockSet"
          methods := ["__iter__", "__len__", "__contains__", "__str__", "__init__", "__repr__",
            "__eq__", "__ne__", "__hash__"]
          fields := ["requirements"] }]
      functions := ["_sorted_requirements", "required_locks"]
      taken := ["ObjectSpec"] },
    { path := ["core", "metadata"]
      classes := [
        { name := "Column"
          methods := ["__init__", "__repr__", "__eq__", "__ne__", "__hash__"]
          fields := ["name", "type", "comment"] },
        { name := "DatabaseMetadata"
          methods := ["to_dict", "from_dict", "__init__", "__repr__", "__eq__", "__ne__",
            "__hash__"]
          fields := ["name", "description", "location", "owner", "parameters"] },
        { name := "TableMetadata"
          methods := ["to_dict", "from_dict", "__init__", "__repr__", "__eq__", "__ne__",
            "__hash__"]
          fields := ["database", "name", "columns", "partition_keys", "location",
            "storage_format", "table_type", "owner", "parameters", "create_time",
            "last_access_time", "catalog_id"]
          values := ["spec", "is_partitioned"] },
        { name := "PartitionMetadata"
          methods := ["_values_from_name", "to_dict", "from_dict", "__init__", "__repr__",
            "__eq__", "__ne__", "__hash__"]
          fields := ["database", "table", "name", "values", "location", "storage_format",
            "parameters", "create_time", "last_access_time", "catalog_id"]
          values := ["spec"] }]
      functions := ["_to_parameters", "_to_columns", "partition_values", "strip_non_comparables",
        "_schema_key", "schemas_match"]
      values := ["NON_COMPARABLE_PARAMETERS"]
      others := [("CatalogRecord", .definition ["typing"] ["Union"])]
      taken := ["ObjectSpec"] },
    { path := ["core", "object_spec"]
      classes := [
        { name := "ObjectSpec"
          methods := ["parse", "__str__", "__init__", "__repr__", "__eq__", "__ne__", "__hash__"]
          fields := ["database", "table", "partition_name"]
          values := ["is_partition", "table_spec"] }] },
    { path := ["core", "partition_task"]
      classes := [
        { name := "PartitionReplicationTask"
          parent := some "ReplicationTask"
          methods := ["__init__", "run"] }]
      taken := ["EventKind", "MetadataAction", "decide_action", "schemas_match", "RunOutcome",
        "TableReplicationTask", "ReplicationTask", "ReplicationError"] },
    { path := ["core", "policy"]
      classes := [
        { name := "DestinationBuilder"
          methods := ["build", "build_database"] },
        { name := "DefaultDestinationBuilder"
          parent := some "DestinationBuilder"
          methods := ["__init__", "build", "build_database", "destination_location"] },
        { name := "ConflictPolicy"
          methods := ["on_conflict"] },
        { name := "LoggingConflictPolicy"
          parent := some "ConflictPolicy"
          methods := ["__init__", "on_conflict"] },
        { name := "RaisingConflictPolicy"
          parent := some "ConflictPolicy"
          methods := ["on_conflict"] }]
      functions := ["is_replica_of"]
      values := ["SOURCE_CLUSTER_KEY", "SOURCE_LAST_MODIFIED_KEY"]
      taken := ["Cluster", "NON_COMPARABLE_PARAMETERS", "CatalogRecord", "DatabaseMetadata",
        "ReplicationConflictError"] },
    { path := ["core", "result"]
      classes := [
        { name := "RunStatus"
          cases := ["SUCCESSFUL", "FAILED", "NOT_COMPLETABLE"] },
        { name := "RunOutcome"
          methods := ["successful", "failed", "not_completable", "__init__", "__repr__", "__eq__",
            "__ne__", "__hash__"]
          fields := ["status", "bytes_copied"]
          values := ["is_successful"] }] },
    { path := ["core", "table_task"]
      classes := [
        { name := "TableReplicationTask"
          parent := some "ReplicationTask"
          methods := ["__init__", "run"] }]
      taken := ["EventKind", "MetadataAction", "decide_action", "DataReconciliation",
        "RunOutcome", "ReplicationTask", "ReplicationError"] },
    { path := ["core", "task"]
      classes := [
        { name := "ReplicationTask"
          methods := ["__init__", "__repr__", "run", "required_locks", "_emit", "_collaborators",
            "_reconcile_data", "_ensure_database"] }]
      functions := ["run_with_locks"]
      taken := ["DirectoryReconciler", "EventKind", "PrintTraceHook", "TraceEvent", "TraceHook",
        "Cluster", "DataReconciliation", "reconcile_data", "LockSet", "required_locks",
        "ObjectSpec", "ConflictPolicy", "DestinationBuilder", "RunOutcome"] },
    { path := ["errors"]
      classes := [
        { name := "ReplicationError" },
        { name := "CatalogError"
          parent := some "ReplicationError" },
        { name := "DirectoryCopyError"
          parent := some "ReplicationError" },
        { name := "ReplicationConflictError"
          parent := some "ReplicationError" },
        { name := "LockError"
          parent := some "ReplicationError" },
        { name := "ConfigError"
          parent := some "ReplicationError" },
        { name := "DisposedError" }]
      values := ["__all__"] },
    { path := ["util"]
      values := ["__all__"]
      taken := ["deep_merge", "Disposable", "import_object", "load_object", "requires",
        "lock_node_name", "normalize_name"] },
    { path := ["util", "deep_merge"]
      functions := ["deep_merge", "_deep_merge_dict"] },
    { path := ["util", "disposable"]
      classes := [
        { name := "Disposable"
          methods := ["__getattribute__", "__setattr__", "dispose"] }]
      taken := ["DisposedError"] },
    { path := ["util", "import_"]
      functions := ["requires", "import_object", "load_object"]
      taken := ["ConfigError"] },
    { path := ["util", "naming"]
      functions := ["normalize_name", "lock_node_name"] },
    { path := ["util", "structlog"]
      classes := [
        { name := "StructlogHandler"
          methods := ["__init__", "emit"] },
        { name := "ReplicationConsoleRenderer"
          methods := ["__init__", "__call__"] }]
      functions := ["setup_logging"] } ]

end CatalogReplication.Component
