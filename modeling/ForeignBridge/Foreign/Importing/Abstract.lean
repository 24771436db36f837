/-! # Abstract classes, in the language

The source texts of the class of abstract classes and of the abstract classes of containers. A line
of a list is a line of the source text.
-/

namespace ForeignBridge.Foreign.Library

/-- The class of classes that leave some methods to those below them. -/
def abstractClasses : List String := [
  "def abstractmethod(funcobj):",
  "    funcobj.__isabstractmethod__ = True",
  "    return funcobj",
  "",
  "class ABCMeta(type):",
  "    def __new__(mcls, name, bases, namespace, /, **kwargs):",
  "        cls = super().__new__(mcls, name, bases, namespace, **kwargs)",
  "        abstracts = set(name for name, value in namespace.items()",
  "                        if getattr(value, '__isabstractmethod__', False))",
  "        for base in bases:",
  "            for name in getattr(base, '__abstractmethods__', ()):",
  "                value = getattr(cls, name, None)",
  "                if getattr(value, '__isabstractmethod__', False):",
  "                    abstracts.add(name)",
  "        cls.__abstractmethods__ = frozenset(abstracts)",
  "        cls._abc_impl = []",
  "        return cls",
  "",
  "    def register(cls, subclass):",
  "        if not isinstance(subclass, type):",
  "            raise TypeError(\"Can only register classes\")",
  "        if issubclass(subclass, cls):",
  "            return subclass",
  "        if issubclass(cls, subclass):",
  "            raise RuntimeError(\"Refusing to create an inheritance cycle\")",
  "        cls._abc_impl.append(subclass)",
  "        return subclass",
  "",
  "    def __instancecheck__(cls, instance):",
  "        subclass = instance.__class__",
  "        if cls.__subclasscheck__(subclass):",
  "            return True",
  "        subtype = type(instance)",
  "        return subtype is not subclass and cls.__subclasscheck__(subtype)",
  "",
  "    def __subclasscheck__(cls, subclass):",
  "        if not isinstance(subclass, type):",
  "            raise TypeError(\"issubclass() arg 1 must be a class\")",
  "        ok = cls.__subclasshook__(subclass)",
  "        if ok is not NotImplemented:",
  "            return ok",
  "        if cls in getattr(subclass, '__mro__', ()):",
  "            return True",
  "        for rcls in cls._abc_impl:",
  "            if issubclass(subclass, rcls):",
  "                return True",
  "        for scls in cls.__subclasses__():",
  "            if issubclass(subclass, scls):",
  "                return True",
  "        return False",
  "",
  "class ABC(metaclass=ABCMeta):",
  "    __slots__ = ()"]

/-- The classes that stand for what a container can do. -/
def containers : List String := [
  "def _check_methods(C, *methods):",
  "    mro = C.__mro__",
  "    for method in methods:",
  "        for B in mro:",
  "            if method in B.__dict__:",
  "                if B.__dict__[method] is None:",
  "                    return NotImplemented",
  "                break",
  "        else:",
  "            return NotImplemented",
  "    return True",
  "",
  "class Hashable(metaclass=ABCMeta):",
  "    __slots__ = ()",
  "    @abstractmethod",
  "    def __hash__(self):",
  "        return 0",
  "    @classmethod",
  "    def __subclasshook__(cls, C):",
  "        if cls is Hashable:",
  "            return _check_methods(C, \"__hash__\")",
  "        return NotImplemented",
  "",
  "class Awaitable(metaclass=ABCMeta):",
  "    __slots__ = ()",
  "    @abstractmethod",
  "    def __await__(self):",
  "        yield",
  "    @classmethod",
  "    def __subclasshook__(cls, C):",
  "        if cls is Awaitable:",
  "            return _check_methods(C, \"__await__\")",
  "        return NotImplemented",
  "    __class_getitem__ = classmethod(GenericAlias)",
  "",
  "class Coroutine(Awaitable):",
  "    __slots__ = ()",
  "    @abstractmethod",
  "    def send(self, value):",
  "        raise StopIteration",
  "    @abstractmethod",
  "    def throw(self, typ, val=None, tb=None):",
  "        raise typ",
  "    @classmethod",
  "    def __subclasshook__(cls, C):",
  "        if cls is Coroutine:",
  "            return _check_methods(C, '__await__', 'send', 'throw', 'close')",
  "        return NotImplemented",
  "",
  "class AsyncIterable(metaclass=ABCMeta):",
  "    __slots__ = ()",
  "    @abstractmethod",
  "    def __aiter__(self):",
  "        return self",
  "    @classmethod",
  "    def __subclasshook__(cls, C):",
  "        if cls is AsyncIterable:",
  "            return _check_methods(C, \"__aiter__\")",
  "        return NotImplemented",
  "    __class_getitem__ = classmethod(GenericAlias)",
  "",
  "class AsyncIterator(AsyncIterable):",
  "    __slots__ = ()",
  "    @abstractmethod",
  "    def __anext__(self):",
  "        raise StopAsyncIteration",
  "    def __aiter__(self):",
  "        return self",
  "    @classmethod",
  "    def __subclasshook__(cls, C):",
  "        if cls is AsyncIterator:",
  "            return _check_methods(C, \"__anext__\", \"__aiter__\")",
  "        return NotImplemented",
  "",
  "class AsyncGenerator(AsyncIterator):",
  "    __slots__ = ()",
  "    @abstractmethod",
  "    def asend(self, value):",
  "        raise StopAsyncIteration",
  "    @abstractmethod",
  "    def athrow(self, typ, val=None, tb=None):",
  "        raise typ",
  "    @classmethod",
  "    def __subclasshook__(cls, C):",
  "        if cls is AsyncGenerator:",
  "            return _check_methods(C, '__aiter__', '__anext__', 'asend', 'athrow', 'aclose')",
  "        return NotImplemented",
  "",
  "class Iterable(metaclass=ABCMeta):",
  "    __slots__ = ()",
  "    @abstractmethod",
  "    def __iter__(self):",
  "        while False:",
  "            yield None",
  "    @classmethod",
  "    def __subclasshook__(cls, C):",
  "        if cls is Iterable:",
  "            return _check_methods(C, \"__iter__\")",
  "        return NotImplemented",
  "    __class_getitem__ = classmethod(GenericAlias)",
  "",
  "class Iterator(Iterable):",
  "    __slots__ = ()",
  "    @abstractmethod",
  "    def __next__(self):",
  "        raise StopIteration",
  "    def __iter__(self):",
  "        return self",
  "    @classmethod",
  "    def __subclasshook__(cls, C):",
  "        if cls is Iterator:",
  "            return _check_methods(C, '__iter__', '__next__')",
  "        return NotImplemented",
  "",
  "class Reversible(Iterable):",
  "    __slots__ = ()",
  "    @abstractmethod",
  "    def __reversed__(self):",
  "        while False:",
  "            yield None",
  "    @classmethod",
  "    def __subclasshook__(cls, C):",
  "        if cls is Reversible:",
  "            return _check_methods(C, \"__reversed__\", \"__iter__\")",
  "        return NotImplemented",
  "",
  "class Generator(Iterator):",
  "    __slots__ = ()",
  "    def __next__(self):",
  "        return self.send(None)",
  "    @abstractmethod",
  "    def send(self, value):",
  "        raise StopIteration",
  "    @abstractmethod",
  "    def throw(self, typ, val=None, tb=None):",
  "        if val is None:",
  "            if tb is None:",
  "                raise typ",
  "            val = typ()",
  "        raise val",
  "    def close(self):",
  "        try:",
  "            self.throw(GeneratorExit)",
  "        except (GeneratorExit, StopIteration):",
  "            pass",
  "        else:",
  "            raise RuntimeError(\"generator ignored GeneratorExit\")",
  "    @classmethod",
  "    def __subclasshook__(cls, C):",
  "        if cls is Generator:",
  "            return _check_methods(C, '__iter__', '__next__', 'send', 'throw', 'close')",
  "        return NotImplemented",
  "",
  "class Sized(metaclass=ABCMeta):",
  "    __slots__ = ()",
  "    @abstractmethod",
  "    def __len__(self):",
  "        return 0",
  "    @classmethod",
  "    def __subclasshook__(cls, C):",
  "        if cls is Sized:",
  "            return _check_methods(C, \"__len__\")",
  "        return NotImplemented",
  "",
  "class Container(metaclass=ABCMeta):",
  "    __slots__ = ()",
  "    @abstractmethod",
  "    def __contains__(self, x):",
  "        return False",
  "    @classmethod",
  "    def __subclasshook__(cls, C):",
  "        if cls is Container:",
  "            return _check_methods(C, \"__contains__\")",
  "        return NotImplemented",
  "    __class_getitem__ = classmethod(GenericAlias)",
  "",
  "class Collection(Sized, Iterable, Container):",
  "    __slots__ = ()",
  "    @classmethod",
  "    def __subclasshook__(cls, C):",
  "        if cls is Collection:",
  "            return _check_methods(C,  \"__len__\", \"__iter__\", \"__contains__\")",
  "        return NotImplemented",
  "",
  "class Callable(metaclass=ABCMeta):",
  "    __slots__ = ()",
  "    @abstractmethod",
  "    def __call__(self, *args, **kwds):",
  "        return False",
  "    @classmethod",
  "    def __subclasshook__(cls, C):",
  "        if cls is Callable:",
  "            return _check_methods(C, \"__call__\")",
  "        return NotImplemented",
  "    __class_getitem__ = classmethod(GenericAlias)",
  "",
  "class Set(Collection):",
  "    __slots__ = ()",
  "    def __le__(self, other):",
  "        if not isinstance(other, Set):",
  "            return NotImplemented",
  "        if len(self) > len(other):",
  "            return False",
  "        for elem in self:",
  "            if elem not in other:",
  "                return False",
  "        return True",
  "    def __lt__(self, other):",
  "        if not isinstance(other, Set):",
  "            return NotImplemented",
  "        return len(self) < len(other) and self.__le__(other)",
  "    def __gt__(self, other):",
  "        if not isinstance(other, Set):",
  "            return NotImplemented",
  "        return len(self) > len(other) and self.__ge__(other)",
  "    def __ge__(self, other):",
  "        if not isinstance(other, Set):",
  "            return NotImplemented",
  "        if len(self) < len(other):",
  "            return False",
  "        for elem in other:",
  "            if elem not in self:",
  "                return False",
  "        return True",
  "    def __eq__(self, other):",
  "        if not isinstance(other, Set):",
  "            return NotImplemented",
  "        return len(self) == len(other) and self.__le__(other)",
  "    @classmethod",
  "    def _from_iterable(cls, it):",
  "        return cls(it)",
  "    def __and__(self, other):",
  "        if not isinstance(other, Iterable):",
  "            return NotImplemented",
  "        return self._from_iterable(value for value in other if value in self)",
  "    __rand__ = __and__",
  "    def isdisjoint(self, other):",
  "        for value in other:",
  "            if value in self:",
  "                return False",
  "        return True",
  "    def __or__(self, other):",
  "        if not isinstance(other, Iterable):",
  "            return NotImplemented",
  "        return self._from_iterable(e for s in (self, other) for e in s)",
  "    __ror__ = __or__",
  "    def __sub__(self, other):",
  "        if not isinstance(other, Set):",
  "            if not isinstance(other, Iterable):",
  "                return NotImplemented",
  "            other = self._from_iterable(other)",
  "        return self._from_iterable(value for value in self if value not in other)",
  "    def __rsub__(self, other):",
  "        if not isinstance(other, Set):",
  "            if not isinstance(other, Iterable):",
  "                return NotImplemented",
  "            other = self._from_iterable(other)",
  "        return self._from_iterable(value for value in other if value not in self)",
  "    def __xor__(self, other):",
  "        if not isinstance(other, Set):",
  "            if not isinstance(other, Iterable):",
  "                return NotImplemented",
  "            other = self._from_iterable(other)",
  "        return (self - other) | (other - self)",
  "    __rxor__ = __xor__",
  "",
  "class MutableSet(Set):",
  "    __slots__ = ()",
  "    @abstractmethod",
  "    def add(self, value):",
  "        raise NotImplementedError",
  "    @abstractmethod",
  "    def discard(self, value):",
  "        raise NotImplementedError",
  "    def remove(self, value):",
  "        if value not in self:",
  "            raise KeyError(value)",
  "        self.discard(value)",
  "    def pop(self):",
  "        it = iter(self)",
  "        try:",
  "            value = next(it)",
  "        except StopIteration:",
  "            raise KeyError from None",
  "        self.discard(value)",
  "        return value",
  "    def clear(self):",
  "        try:",
  "            while True:",
  "                self.pop()",
  "        except KeyError:",
  "            pass",
  "",
  "class Mapping(Collection):",
  "    __slots__ = ()",
  "    @abstractmethod",
  "    def __getitem__(self, key):",
  "        raise KeyError",
  "    def get(self, key, default=None):",
  "        try:",
  "            return self[key]",
  "        except KeyError:",
  "            return default",
  "    def __contains__(self, key):",
  "        try:",
  "            self[key]",
  "        except KeyError:",
  "            return False",
  "        else:",
  "            return True",
  "    def keys(self):",
  "        return KeysView(self)",
  "    def items(self):",
  "        return ItemsView(self)",
  "    def values(self):",
  "        return ValuesView(self)",
  "    def __eq__(self, other):",
  "        if not isinstance(other, Mapping):",
  "            return NotImplemented",
  "        return dict(self.items()) == dict(other.items())",
  "    __reversed__ = None",
  "",
  "class MappingView(Sized):",
  "    __slots__ = ('_mapping',)",
  "    def __init__(self, mapping):",
  "        self._mapping = mapping",
  "    def __len__(self):",
  "        return len(self._mapping)",
  "    def __repr__(self):",
  "        return '%s(%r)' % (self.__class__.__name__, self._mapping)",
  "    __class_getitem__ = classmethod(GenericAlias)",
  "",
  "class KeysView(MappingView, Set):",
  "    __slots__ = ()",
  "    @classmethod",
  "    def _from_iterable(cls, it):",
  "        return set(it)",
  "    def __contains__(self, key):",
  "        return key in self._mapping",
  "    def __iter__(self):",
  "        yield from self._mapping",
  "",
  "class ItemsView(MappingView, Set):",
  "    __slots__ = ()",
  "    @classmethod",
  "    def _from_iterable(cls, it):",
  "        return set(it)",
  "    def __contains__(self, item):",
  "        key, value = item",
  "        try:",
  "            v = self._mapping[key]",
  "        except KeyError:",
  "            return False",
  "        else:",
  "            return v is value or v == value",
  "    def __iter__(self):",
  "        for key in self._mapping:",
  "            yield (key, self._mapping[key])",
  "",
  "class ValuesView(MappingView, Collection):",
  "    __slots__ = ()",
  "    def __contains__(self, value):",
  "        for key in self._mapping:",
  "            v = self._mapping[key]",
  "            if v is value or v == value:",
  "                return True",
  "        return False",
  "    def __iter__(self):",
  "        for key in self._mapping:",
  "            yield self._mapping[key]",
  "",
  "class MutableMapping(Mapping):",
  "    __slots__ = ()",
  "    @abstractmethod",
  "    def __setitem__(self, key, value):",
  "        raise KeyError",
  "    @abstractmethod",
  "    def __delitem__(self, key):",
  "        raise KeyError",
  "    __marker = object()",
  "    def pop(self, key, default=__marker):",
  "        try:",
  "            value = self[key]",
  "        except KeyError:",
  "            if default is self.__marker:",
  "                raise",
  "            return default",
  "        else:",
  "            del self[key]",
  "            return value",
  "    def popitem(self):",
  "        try:",
  "            key = next(iter(self))",
  "        except StopIteration:",
  "            raise KeyError from None",
  "        value = self[key]",
  "        del self[key]",
  "        return key, value",
  "    def clear(self):",
  "        try:",
  "            while True:",
  "                self.popitem()",
  "        except KeyError:",
  "            pass",
  "    def update(self, other=(), /, **kwds):",
  "        if isinstance(other, Mapping):",
  "            for key in other:",
  "                self[key] = other[key]",
  "        elif hasattr(other, \"keys\"):",
  "            for key in other.keys():",
  "                self[key] = other[key]",
  "        else:",
  "            for key, value in other:",
  "                self[key] = value",
  "        for key, value in kwds.items():",
  "            self[key] = value",
  "    def setdefault(self, key, default=None):",
  "        try:",
  "            return self[key]",
  "        except KeyError:",
  "            self[key] = default",
  "        return default",
  "",
  "class Sequence(Reversible, Collection):",
  "    __slots__ = ()",
  "    @abstractmethod",
  "    def __getitem__(self, index):",
  "        raise IndexError",
  "    def __iter__(self):",
  "        i = 0",
  "        try:",
  "            while True:",
  "                v = self[i]",
  "                yield v",
  "                i += 1",
  "        except IndexError:",
  "            return",
  "    def __contains__(self, value):",
  "        for v in self:",
  "            if v is value or v == value:",
  "                return True",
  "        return False",
  "    def __reversed__(self):",
  "        for i in reversed(range(len(self))):",
  "            yield self[i]",
  "    def index(self, value, start=0, stop=None):",
  "        if start is not None and start < 0:",
  "            start = max(len(self) + start, 0)",
  "        if stop is not None and stop < 0:",
  "            stop += len(self)",
  "        i = start",
  "        while stop is None or i < stop:",
  "            try:",
  "                v = self[i]",
  "            except IndexError:",
  "                break",
  "            if v is value or v == value:",
  "                return i",
  "            i += 1",
  "        raise ValueError",
  "    def count(self, value):",
  "        return sum(1 for v in self if v is value or v == value)",
  "",
  "class ByteString(Sequence):",
  "    __slots__ = ()",
  "",
  "class MutableSequence(Sequence):",
  "    __slots__ = ()",
  "    @abstractmethod",
  "    def __setitem__(self, index, value):",
  "        raise IndexError",
  "    @abstractmethod",
  "    def __delitem__(self, index):",
  "        raise IndexError",
  "    @abstractmethod",
  "    def insert(self, index, value):",
  "        raise IndexError",
  "    def append(self, value):",
  "        self.insert(len(self), value)",
  "    def clear(self):",
  "        try:",
  "            while True:",
  "                self.pop()",
  "        except IndexError:",
  "            pass",
  "    def reverse(self):",
  "        n = len(self)",
  "        for i in range(n//2):",
  "            self[i], self[n-i-1] = self[n-i-1], self[i]",
  "    def extend(self, values):",
  "        if values is self:",
  "            values = list(values)",
  "        for v in values:",
  "            self.append(v)",
  "    def pop(self, index=-1):",
  "        v = self[index]",
  "        del self[index]",
  "        return v",
  "    def remove(self, value):",
  "        del self[self.index(value)]",
  "    def __iadd__(self, values):",
  "        self.extend(values)",
  "        return self",
  "",
  "def _register():",
  "    empty = dict()",
  "    Iterator.register(type(iter(b'')))",
  "    Iterator.register(type(iter(bytearray())))",
  "    Iterator.register(type(iter(empty.keys())))",
  "    Iterator.register(type(iter(empty.values())))",
  "    Iterator.register(type(iter(empty.items())))",
  "    Iterator.register(type(iter([])))",
  "    Iterator.register(type(iter(reversed([]))))",
  "    Iterator.register(type(iter(range(0))))",
  "    Iterator.register(type(iter(set())))",
  "    Iterator.register(type(iter(\"\")))",
  "    Iterator.register(type(iter(())))",
  "    Iterator.register(zip)",
  "    Generator.register(type((lambda: (yield))()))",
  "    Set.register(frozenset)",
  "    MutableSet.register(set)",
  "    Mapping.register(type(type.__dict__))",
  "    KeysView.register(type(empty.keys()))",
  "    ItemsView.register(type(empty.items()))",
  "    ValuesView.register(type(empty.values()))",
  "    MutableMapping.register(dict)",
  "    Sequence.register(tuple)",
  "    Sequence.register(str)",
  "    Sequence.register(range)",
  "    ByteString.register(bytes)",
  "    ByteString.register(bytearray)",
  "    MutableSequence.register(list)",
  "    MutableSequence.register(bytearray)",
  "",
  "_register()",
  "del _register"]

end ForeignBridge.Foreign.Library
